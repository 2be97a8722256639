import Wwan.Modem.SimEnrichment

/-! An enrichment of a SIM's information is sent only if nothing has happened since it was started. -/

namespace Wwan.Modem.Qmi.SimEnrichment

open Streams (Result)

/-- The events after which an older enrichment is outdated. -/
def Event.Supersedes : Event → Prop
  | .card _ | .slot | .resync => True
  | _ => False

/-- The query has neither returned nor been cancelled. -/
def Query.Live (q : Query) : Prop := q.stage = .querying ∧ q.cancelled = false

/-- The goroutine of the query has not come to its end. -/
def Query.Pending (q : Query) : Prop := q.stage = .querying ∨ ∃ result, q.stage = .delivering result

/-- The query has returned a result. -/
def Query.Returned (q : Query) (result : Result SIMInfo GoString) : Prop :=
  q.stage = .delivering result ∨ q.stage = .delivered result

/-! The queries of a watch. -/

/-- What holds of the queries, with the variables of the loop that tell them apart. -/
structure Ordered (queries : List Query) (generation : Nat) (timer : Bool) (cancel : Option Nat)
    (results : List (Nat × Nat × Result SIMInfo GoString)) : Prop where
  /-- Every generation starts one query at most. -/
  distinct : ∀ (i j : Nat) (q r : Query), queries[i]? = some q → queries[j]? = some r → q.generation = r.generation → i = j
  bounded : ∀ (i : Nat) (q : Query), queries[i]? = some q → q.generation ≤ generation
  /-- A timer that runs belongs to a generation that has not started its query. -/
  timer : timer = true → cancel = none ∧ ∀ (i : Nat) (q : Query), queries[i]? = some q → q.generation < generation
  /-- The query that the loop can cancel is that of the current generation. -/
  current : ∀ i, cancel = some i → ∃ q : Query, queries[i]? = some q ∧ q.generation = generation
  /-- A query that goes on is one that the loop can cancel. -/
  pending : ∀ (i : Nat) (q : Query), queries[i]? = some q → q.cancelled = false → q.Pending → cancel = some i
  results : ∀ entry ∈ results, ∃ q : Query, queries[entry.1]? = some q ∧ q.generation = entry.2.1 ∧ q.stage = .delivered entry.2.2

/-- The queries of a watch are in order. -/
def Watch.Core (w : Watch) : Prop :=
  Ordered w.queries w.enrichmentGeneration w.enrichmentC w.enrichmentCancel w.enrichmentResults

/-- A result that is going to be sent is that of the current generation. -/
def Watch.Fresh (w : Watch) : Prop :=
  ∀ i result, w.phase = .sending (.enrichment i result) →
    ∃ q : Query, w.queries[i]? = some q ∧ q.generation = w.enrichmentGeneration ∧ q.stage = .delivered result

/-- A phase in which no enrichment is sent. -/
def Phase.Plain (phase : Phase) : Prop := ∀ i result, phase ≠ .sending (.enrichment i result)

/-- Where no enrichment is sent, nothing is to be fresh. -/
theorem Phase.Plain.fresh {w : Watch} (plain : w.phase.Plain) : w.Fresh :=
  fun i result sending => absurd sending (plain i result)

/-- The queries are the same but for some that were cancelled. -/
def Cancels (queries later : List Query) : Prop :=
  ∀ i : Nat, (queries[i]? = none ∧ later[i]? = none) ∨ ∃ q q' : Query, queries[i]? = some q ∧ later[i]? = some q'
    ∧ q'.generation = q.generation ∧ q'.stage = q.stage ∧ (q'.cancelled = false → q.cancelled = false)

/-- Nothing was cancelled. -/
theorem Cancels.refl (queries : List Query) : Cancels queries queries := by
  intro i
  cases queries[i]? with
  | none => exact .inl ⟨rfl, rfl⟩
  | some q => exact .inr ⟨q, q, rfl, rfl, rfl, rfl, id⟩

/-- A query that is there was there. -/
theorem Cancels.before {queries later : List Query} (cancels : Cancels queries later) {i : Nat} {q' : Query}
    (found : later[i]? = some q') : ∃ q : Query, queries[i]? = some q ∧ q'.generation = q.generation ∧ q'.stage = q.stage
      ∧ (q'.cancelled = false → q.cancelled = false) := by
  obtain ⟨-, missing⟩ | ⟨q, r, there, here, rest⟩ := cancels i
  · exact absurd (missing.symm.trans found) (by simp)
  · cases here.symm.trans found
    exact ⟨q, there, rest⟩

/-- A query that was there is there. -/
theorem Cancels.later {queries later : List Query} (cancels : Cancels queries later) {i : Nat} {q : Query}
    (found : queries[i]? = some q) : ∃ q' : Query, later[i]? = some q' ∧ q'.generation = q.generation ∧ q'.stage = q.stage := by
  obtain ⟨missing, -⟩ | ⟨r, q', there, here, generation, stage, -⟩ := cancels i
  · exact absurd (missing.symm.trans found) (by simp)
  · cases there.symm.trans found
    exact ⟨q', here, generation, stage⟩

/-- Every query is cancelled. -/
theorem cancels_cancelAll (w : Watch) : Cancels w.queries w.cancelAll.queries := by
  intro i
  simp only [Watch.cancelAll, List.getElem?_map]
  cases w.queries[i]? with
  | none => exact .inl ⟨rfl, rfl⟩
  | some q => exact .inr ⟨q, _, rfl, rfl, rfl, rfl, by simp⟩

/-- A query is cancelled. -/
theorem cancels_modify (queries : List Query) (query : Nat) :
    Cancels queries (queries.modify query fun q => { q with cancelled := true }) := by
  intro i
  rw [List.getElem?_modify]
  cases queries[i]? with
  | none => exact .inl ⟨rfl, rfl⟩
  | some q =>
    by_cases same : query = i
    · exact .inr ⟨q, { q with cancelled := true }, rfl, by simp [same], rfl, rfl, by simp⟩
    · exact .inr ⟨q, q, rfl, by simp [same], rfl, rfl, id⟩

/-- Cancelled queries stay in order. -/
theorem Ordered.cancels {queries later : List Query} {generation : Nat} {timer : Bool} {cancel : Option Nat}
    {results : List (Nat × Nat × Result SIMInfo GoString)} (core : Ordered queries generation timer cancel results)
    (cancels : Cancels queries later) : Ordered later generation timer cancel results := by
  -- Nothing but contexts has ended, so each part is read back through the query that it was before.
  refine ⟨fun i j q r left right same => ?_, fun i q found => ?_, fun runs => ⟨(core.timer runs).1, fun i q found => ?_⟩,
    fun i pointed => ?_, fun i q found goesOn pending => ?_, fun entry there => ?_⟩
  · -- No two queries share a generation.
    obtain ⟨q₀, before, generation, -⟩ := cancels.before left
    obtain ⟨r₀, before', generation', -⟩ := cancels.before right
    exact core.distinct i j q₀ r₀ before before' (by rw [← generation, ← generation', same])
  · obtain ⟨q₀, before, generation, -⟩ := cancels.before found
    exact generation ▸ core.bounded i q₀ before
  · obtain ⟨q₀, before, generation, -⟩ := cancels.before found
    exact generation ▸ (core.timer runs).2 i q₀ before
  · -- The query that `enrichmentCancel` points to keeps its generation.
    obtain ⟨q, before, generation⟩ := core.current i pointed
    obtain ⟨q', here, same, -⟩ := cancels.later before
    exact ⟨q', here, same.trans generation⟩
  · -- A query whose context goes on now did so before.
    obtain ⟨q₀, before, -, stage, kept⟩ := cancels.before found
    exact core.pending i q₀ before (kept goesOn) (by rwa [Query.Pending, ← stage])
  · -- What is in the channel was delivered, which the end of a context does not undo.
    obtain ⟨q, before, generation, stage⟩ := core.results entry there
    obtain ⟨q', here, same, kept⟩ := cancels.later before
    exact ⟨q', here, same.trans generation, kept.trans stage⟩

/-- The end of the context keeps the queries in order. -/
theorem Watch.Core.cancelAll {w : Watch} (core : w.Core) : w.cancelAll.Core :=
  Ordered.cancels core (cancels_cancelAll w)

/-- So does a return. -/
theorem Watch.Core.leave {w : Watch} (core : w.Core) : w.leave.Core := core.cancelAll

/-- And what follows the select. -/
theorem Watch.Core.after {w : Watch} (core : w.Core) : w.after.Core := by
  unfold Watch.after
  split
  · exact core.cancelAll
  · exact core

/-- A new generation cancels the query of the one before. -/
theorem Watch.Core.scheduleEnrichment {w : Watch} (core : w.Core) : w.scheduleEnrichment.Core := by
  -- No query goes on without being cancelled, and none has the new generation.
  have fresh {queries : List Query} (cancels : Cancels w.queries queries)
      (stopped : ∀ (i : Nat) (q : Query), queries[i]? = some q → q.cancelled = false → ¬q.Pending) :
      Ordered queries (w.enrichmentGeneration + 1) true none w.enrichmentResults := by
    have kept := Ordered.cancels core cancels
    refine ⟨kept.distinct, fun i q found => Nat.le_succ_of_le (kept.bounded i q found), fun _ => ⟨rfl, fun i q found => ?_⟩,
      nofun, fun i q found goesOn pending => absurd pending (stopped i q found goesOn), kept.results⟩
    exact Nat.lt_succ_of_le (kept.bounded i q found)
  unfold Watch.scheduleEnrichment
  cases pointed : w.enrichmentCancel with
  -- Without a pointer no query is pending whose context goes on.
  | none =>
    refine fresh (.refl _) fun i q found goesOn pending => ?_
    exact absurd (pointed.symm.trans (core.pending i q found goesOn pending)) (by simp)
  | some query =>
    -- The only such query is the one that the pointer names, and its context has just ended.
    refine fresh (cancels_modify w.queries query) fun i q (found : (w.queries.modify query _)[i]? = some q) goesOn pending => ?_
    obtain ⟨q₀, before, -, stage, kept⟩ := (cancels_modify w.queries query).before found
    have same := core.pending i q₀ before (kept goesOn) (by rwa [Query.Pending, ← stage])
    cases pointed.symm.trans same
    rw [List.getElem?_modify, before] at found
    simp only [if_true, Option.map_eq_map, Option.map_some, Option.some.injEq] at found
    rw [← found] at goesOn
    exact absurd goesOn (by simp)

/-- What is found in a list with one more element was there or is the new one. -/
theorem getElem?_concat_cases {α : Type} {list : List α} {x y : α} {i : Nat} (found : (list ++ [x])[i]? = some y) :
    list[i]? = some y ∨ i = list.length ∧ y = x := by
  by_cases earlier : i < list.length
  · exact .inl (by rwa [List.getElem?_append_left earlier] at found)
  · have inside := (List.getElem?_eq_some_iff.mp found).1
    simp only [List.length_append, List.length_singleton] at inside
    have last : i = list.length := by omega
    subst last
    rw [List.getElem?_concat_length] at found
    exact .inr ⟨rfl, (Option.some.inj found).symm⟩

/-- The timer of a generation starts its query. -/
theorem Watch.Core.startEnrichment {w : Watch} (core : w.Core) (runs : w.enrichmentC = true) :
    w.startEnrichment.Core := by
  obtain ⟨idle, older⟩ := core.timer runs
  -- A query is either an older one or the new one.
  have cases_of {i : Nat} {q : Query} (found : w.startEnrichment.queries[i]? = some q) :
      w.queries[i]? = some q ∨ i = w.queries.length ∧ q.generation = w.enrichmentGeneration := by
    rcases getElem?_concat_cases found with before | ⟨last, rfl⟩
    · exact .inl before
    · exact .inr ⟨last, rfl⟩
  have kept {i : Nat} {q : Query} (found : w.queries[i]? = some q) : w.startEnrichment.queries[i]? = some q := by
    have inside := (List.getElem?_eq_some_iff.mp found).1
    simp only [Watch.startEnrichment]
    rw [List.getElem?_append_left inside, found]
  refine ⟨fun i j q r left right same => ?_, fun i q found => ?_, nofun, fun i pointed => ?_,
    fun i q found goesOn pending => ?_, fun entry there => ?_⟩
  · -- A new query shares its generation with none, since the timer runs only behind a newer one.
    rcases cases_of left with before | ⟨rfl, own⟩ <;> rcases cases_of right with before' | ⟨rfl, own'⟩
    · exact core.distinct i j q r before before' same
    · exact absurd (older i q before) (by omega)
    · exact absurd (older j r before') (by omega)
    · rfl
  · -- The new query has the current generation, which bounds the older ones.
    rcases cases_of found with before | ⟨-, own⟩
    · exact core.bounded i q before
    · exact own.le
  · -- The pointer is at the new query.
    cases pointed
    exact ⟨_, List.getElem?_concat_length, rfl⟩
  · -- The timer ran without a pointer, so nothing but the new query goes on.
    rcases cases_of found with before | ⟨rfl, -⟩
    · exact absurd (idle.symm.trans (core.pending i q before goesOn pending)) (by simp)
    · rfl
  · -- The channel is as it was.
    obtain ⟨q, before, rest⟩ := core.results entry there
    exact ⟨q, kept before, rest⟩

/-- A query whose goroutine goes on keeps the others in order: it is the only one that changes, and only its stage. -/
theorem Watch.Core.update {w : Watch} (core : w.Core) {query : Nat} {q : Query} (found : w.queries[query]? = some q)
    (pending : q.Pending) {stage : Stage} (results : List (Nat × Nat × Result SIMInfo GoString))
    (entries : ∀ entry ∈ results, entry ∈ w.enrichmentResults
      ∨ entry.1 = query ∧ entry.2.1 = q.generation ∧ stage = .delivered entry.2.2) :
    Ordered (w.update query fun q => { q with stage }).queries w.enrichmentGeneration w.enrichmentC w.enrichmentCancel
      results := by
  -- A query has the generation it had, and its stage unless it is the one that goes on.
  have before {i : Nat} {q' : Query} (here : (w.queries.modify query fun q => { q with stage })[i]? = some q') :
      ∃ r, w.queries[i]? = some r ∧ q'.generation = r.generation ∧ q'.cancelled = r.cancelled
        ∧ (i ≠ query → q'.stage = r.stage) := by
    rw [List.getElem?_modify] at here
    cases there : w.queries[i]? with
    | none => simp [there] at here
    | some r =>
      by_cases same : query = i
      · simp only [there, same, if_true, Option.map_eq_map, Option.map_some, Option.some.injEq] at here
        subst here
        exact ⟨r, rfl, rfl, rfl, fun other => absurd same.symm other⟩
      · simp only [there, same, if_false, Option.map_eq_map, Option.map_some, Option.some.injEq] at here
        subst here
        exact ⟨r, rfl, rfl, rfl, fun _ => rfl⟩
  -- Conversely, every query is still there, with the new stage if it is the one that goes on.
  have later {i : Nat} {r : Query} (there : w.queries[i]? = some r) : ∃ q' : Query,
      (w.queries.modify query fun q => { q with stage })[i]? = some q' ∧ q'.generation = r.generation
        ∧ q'.stage = if query = i then stage else r.stage := by
    rw [List.getElem?_modify, there]
    by_cases same : query = i
    · exact ⟨{ r with stage }, by simp [same], rfl, by simp [same]⟩
    · exact ⟨r, by simp [same], rfl, by simp [same]⟩
  refine ⟨fun i j a b left right same => ?_, fun i a here => ?_, fun runs => ⟨(core.timer runs).1, fun i a here => ?_⟩,
    fun i pointed => ?_, fun i a here goesOn stillPending => ?_, fun entry there => ?_⟩
  · -- No two queries share a generation.
    obtain ⟨a₀, wasA, genA, -⟩ := before left
    obtain ⟨b₀, wasB, genB, -⟩ := before right
    exact core.distinct i j a₀ b₀ wasA wasB (by rw [← genA, ← genB, same])
  · obtain ⟨a₀, was, generation, -⟩ := before here
    exact generation ▸ core.bounded i a₀ was
  · obtain ⟨a₀, was, generation, -⟩ := before here
    exact generation ▸ (core.timer runs).2 i a₀ was
  · -- The pointer stays where it was.
    obtain ⟨a, was, generation⟩ := core.current i pointed
    obtain ⟨a', here, same, -⟩ := later was
    exact ⟨a', here, same.trans generation⟩
  · -- The one that goes on was pending before, and the pointer has named it since.
    obtain ⟨a₀, was, -, cancelled, kept⟩ := before here
    by_cases own : i = query
    · subst own
      cases found.symm.trans was
      exact core.pending i q found (cancelled.symm.trans goesOn) pending
    · exact core.pending i a₀ was (cancelled.symm.trans goesOn) (by rwa [Query.Pending, ← kept own])
  · -- A result in the channel is an old one, or the one that was put there.
    rcases entries entry there with old | ⟨own, generation, delivered⟩
    · obtain ⟨r, was, generation, stage'⟩ := core.results entry old
      obtain ⟨r', here, same, now⟩ := later was
      -- What is in the channel was delivered, so that it is not what goes on.
      have other : query ≠ entry.1 := by
        rintro rfl
        cases found.symm.trans was
        rcases pending with asks | ⟨result, delivers⟩
        · exact absurd (asks.symm.trans stage') (by simp)
        · exact absurd (delivers.symm.trans stage') (by simp)
      exact ⟨r', here, same.trans generation, by rw [now, if_neg other, stage']⟩
    · obtain ⟨r', here, same, now⟩ := later found
      rw [own]
      exact ⟨r', here, same.trans generation.symm, by rw [now, if_pos rfl, delivered]⟩

/-! What each part of a step changes. -/

/-- Cancelled once and once more. -/
theorem Cancels.trans {first second third : List Query} (once : Cancels first second) (again : Cancels second third) :
    Cancels first third := by
  intro i
  obtain ⟨missing, gone⟩ | ⟨q, q', was, then', generation, stage, cancelled⟩ := once i
  · obtain ⟨-, still⟩ | ⟨q, q', there, -⟩ := again i
    · exact .inl ⟨missing, still⟩
    · exact absurd (gone.symm.trans there) (by simp)
  · obtain ⟨r, now, generation', stage'⟩ := again.later then'
    obtain ⟨q₂, same, -, -, kept⟩ := again.before now
    cases then'.symm.trans same
    exact .inr ⟨q, r, was, now, generation'.trans generation, stage'.trans stage, fun goesOn => cancelled (kept goesOn)⟩

/-- A new generation cancels one query at most. -/
theorem cancels_scheduleEnrichment (w : Watch) : Cancels w.queries w.scheduleEnrichment.queries := by
  unfold Watch.scheduleEnrichment
  cases w.enrichmentCancel with
  | none => exact .refl _
  | some query => exact cancels_modify w.queries query

/-- What follows the select cancels all queries or none. -/
theorem cancels_after (w : Watch) : Cancels w.queries w.after.queries := by
  unfold Watch.after
  split
  · exact cancels_cancelAll w
  · exact .refl _

@[simp] theorem scheduleEnrichment_generation (w : Watch) :
    w.scheduleEnrichment.enrichmentGeneration = w.enrichmentGeneration + 1 := by
  unfold Watch.scheduleEnrichment
  cases w.enrichmentCancel <;> rfl

@[simp] theorem after_generation (w : Watch) : w.after.enrichmentGeneration = w.enrichmentGeneration := by
  unfold Watch.after
  split <;> rfl

/-- What follows the select sends nothing. -/
theorem plain_after (w : Watch) : w.after.phase.Plain := by
  unfold Watch.after
  split <;> exact fun _ _ => nofun

/-- What a step keeps, and what it changes. -/
structure Next (e : Event) (w w' : Watch) : Prop where
  core : w'.Core
  fresh : w'.Fresh
  /-- A query was there before with all that it has returned, unless it is started or returns now. -/
  queries : ∀ (i : Nat) (q' : Query), w'.queries[i]? = some q' →
    (∃ q : Query, w.queries[i]? = some q ∧ q'.generation = q.generation
      ∧ ∀ result, q'.Returned result → q.Returned result ∨ e = .finish i result)
    ∨ e = .enrich ∧ i = w.queries.length ∧ q'.stage = .querying
  grows : w.enrichmentGeneration ≤ w'.enrichmentGeneration
  supersedes : e.Supersedes → w.enrichmentGeneration < w'.enrichmentGeneration

/-- A query that is only cancelled has returned what it had. -/
theorem Cancels.queries {queries later : List Query} (cancels : Cancels queries later) (e : Event) {i : Nat} {q' : Query}
    (found : later[i]? = some q') : ∃ q : Query, queries[i]? = some q ∧ q'.generation = q.generation
      ∧ ∀ result, q'.Returned result → q.Returned result ∨ e = .finish i result := by
  obtain ⟨q, was, generation, stage, -⟩ := cancels.before found
  exact ⟨q, was, generation, fun result returned => .inl (by rwa [Query.Returned, ← stage])⟩

/-- A step that starts no query, lets none go on and sends no enrichment. -/
theorem Next.of_cancels {e : Event} {w w' : Watch} (core : w'.Core) (plain : w'.phase.Plain)
    (cancels : Cancels w.queries w'.queries) (grows : w.enrichmentGeneration ≤ w'.enrichmentGeneration)
    (supersedes : e.Supersedes → w.enrichmentGeneration < w'.enrichmentGeneration) : Next e w w' :=
  ⟨core, plain.fresh, fun _ _ found => .inl (cancels.queries e found), grows, supersedes⟩

/-- A return is such a step. -/
theorem next_leave {e : Event} {w w' : Watch} (core : w'.Core) (same : w'.queries = w.queries)
    (generation : w'.enrichmentGeneration = w.enrichmentGeneration) (other : ¬e.Supersedes) : Next e w w'.leave := by
  refine .of_cancels core.leave (fun _ _ => nofun) ?_ generation.ge fun supersedes => absurd supersedes other
  rw [← same]
  exact cancels_cancelAll w'

/-- A change of the phase to one in which no enrichment is sent is such a step. -/
theorem next_plain {e : Event} {w w' : Watch} (core : w'.Core) (plain : w'.phase.Plain) (same : w'.queries = w.queries)
    (generation : w'.enrichmentGeneration = w.enrichmentGeneration) (other : ¬e.Supersedes) : Next e w w' := by
  refine .of_cancels core plain ?_ generation.ge fun supersedes => absurd supersedes other
  rw [same]
  exact .refl _

/-- A result is sent. -/
theorem next_sent {w w' : Watch} (core : w.Core) (accepted : w.sent = some w') : Next .send w w' := by
  unfold Watch.sent at accepted
  -- Only the initial information and a result of the select are sent.
  cases phase : w.phase with
  | starting result =>
    simp only [phase] at accepted
    split at accepted
    · -- An error ends the watch.
      cases accepted
      exact next_leave core rfl rfl (by simp [Event.Supersedes])
    · cases accepted
      split
      · -- A card that is there is enriched, which starts a generation.
        refine .of_cancels (Watch.Core.scheduleEnrichment core) (fun _ _ => nofun) (cancels_scheduleEnrichment (w.push _)) ?_
          (by simp [Event.Supersedes])
        simp [Watch.push]
      · -- Without a card there is nothing to enrich.
        exact next_plain core (fun _ _ => nofun) rfl rfl (by simp [Event.Supersedes])
  | sending emission =>
    simp only [phase] at accepted
    split at accepted
    · -- An error ends the watch here too.
      cases accepted
      exact next_leave core rfl rfl (by simp [Event.Supersedes])
    · cases accepted
      -- After the result, the loop goes back to its select or polls.
      refine .of_cancels (Watch.Core.after core) (plain_after _) (cancels_after (w.push emission)) ?_
        (by simp [Event.Supersedes])
      simp [Watch.push]
  -- No other phase sends.
  | absent => simp [phase] at accepted
  | initial => simp [phase] at accepted
  | selecting => simp [phase] at accepted
  | slot => simp [phase] at accepted
  | polling => simp [phase] at accepted
  | returned => simp [phase] at accepted

/-- A result of the current generation is taken, so that no query is left that the loop could cancel. -/
theorem Watch.Core.result {w : Watch} (core : w.Core) {query : Nat} {result : Result SIMInfo GoString}
    {rest : List (Nat × Nat × Result SIMInfo GoString)}
    (waiting : w.enrichmentResults = (query, w.enrichmentGeneration, result) :: rest) :
    Ordered w.queries w.enrichmentGeneration w.enrichmentC none rest := by
  obtain ⟨q, found, own, delivered⟩ := core.results _ (by rw [waiting]; exact List.mem_cons_self)
  refine ⟨core.distinct, core.bounded, fun runs => ⟨rfl, (core.timer runs).2⟩, nofun, fun i r there goesOn pending => ?_,
    fun entry later => core.results entry (by rw [waiting]; exact List.mem_cons_of_mem _ later)⟩
  -- A query that goes on would be of the current generation too, and so the one that is delivered.
  obtain ⟨r', same, generation⟩ := core.current i (core.pending i r there goesOn pending)
  cases there.symm.trans same
  cases core.distinct i query r q there found (by rw [generation, own])
  cases there.symm.trans found
  rcases pending with asks | ⟨result, delivers⟩
  · exact absurd (asks.symm.trans delivered) (by simp)
  · exact absurd (delivers.symm.trans delivered) (by simp)

/-- A case of the select is taken. -/
theorem next_select {w w' : Watch} {e : Event} (core : w.Core) (selecting : w.phase = .selecting)
    (accepted : w.select e = some w') : Next e w w' := by
  cases e with
  | card info =>
    -- A card event starts a generation and sends the information that it carries.
    simp only [Watch.select, Option.ite_none_right_eq_some, Option.some.injEq] at accepted
    obtain ⟨-, rfl⟩ := accepted
    exact .of_cancels core.scheduleEnrichment (fun _ _ => nofun) (cancels_scheduleEnrichment w) (by simp) (by simp)
  | cardClosed =>
    -- A closed channel changes no query, unless polling starts and ends the context of all.
    simp only [Watch.select, Option.ite_none_right_eq_some, Option.some.injEq] at accepted
    obtain ⟨-, rfl⟩ := accepted
    exact .of_cancels (Watch.Core.after core) (plain_after _) (cancels_after { w with cardEvents := false }) (by simp)
      (by simp [Event.Supersedes])
  | slot =>
    -- A slot event starts a generation, and the information is asked for.
    simp only [Watch.select, Option.ite_none_right_eq_some, Option.some.injEq] at accepted
    obtain ⟨-, rfl⟩ := accepted
    exact .of_cancels core.scheduleEnrichment (fun _ _ => nofun) (cancels_scheduleEnrichment w) (by simp) (by simp)
  | slotClosed =>
    simp only [Watch.select, Option.ite_none_right_eq_some, Option.some.injEq] at accepted
    obtain ⟨-, rfl⟩ := accepted
    exact .of_cancels (Watch.Core.after core) (plain_after _) (cancels_after { w with slotEvents := false }) (by simp)
      (by simp [Event.Supersedes])
  | resync =>
    -- A resynchronization starts a generation without sending anything.
    cases accepted
    exact .of_cancels core.scheduleEnrichment.after (plain_after _)
      ((cancels_scheduleEnrichment w).trans (cancels_after _)) (by simp) (by simp)
  | enrich =>
    -- The timer has fired, and the new query is the only one that was not there before.
    simp only [Watch.select, Option.ite_none_right_eq_some, Option.some.injEq] at accepted
    obtain ⟨runs, rfl⟩ := accepted
    refine ⟨(core.startEnrichment runs).after, (plain_after _).fresh, fun i q' found => ?_, ?_, by simp [Event.Supersedes]⟩
    · obtain ⟨q, was, generation, stage, -⟩ := (cancels_after w.startEnrichment).before found
      rcases getElem?_concat_cases was with before | ⟨last, rfl⟩
      · refine .inl ⟨q, before, generation, fun result returned => .inl ?_⟩
        rwa [Query.Returned, ← stage]
      · exact .inr ⟨rfl, last, stage⟩
    · rw [after_generation]
      exact le_rfl
  | result =>
    simp only [Watch.select] at accepted
    cases waiting : w.enrichmentResults with
    | nil => simp [waiting] at accepted
    | cons entry rest =>
      obtain ⟨query, generation, result⟩ := entry
      simp only [waiting] at accepted
      split at accepted
      · -- A result of an older generation is dropped.
        cases accepted
        refine .of_cancels ⟨core.distinct, core.bounded, core.timer, core.current, core.pending, fun entry later => ?_⟩
          (by rw [selecting]; exact fun _ _ => nofun) (.refl _) le_rfl (by simp [Event.Supersedes])
        exact core.results entry (by rw [waiting]; exact List.mem_cons_of_mem _ later)
      · -- The only result to be sent is of the current generation, and delivered.
        rename_i same
        cases accepted
        cases not_not.mp same
        obtain ⟨q, found, own, delivered⟩ := core.results _ (by rw [waiting]; exact List.mem_cons_self)
        refine ⟨core.result waiting, fun i r sending => ?_, fun i q' found => .inl ((Cancels.refl _).queries _ found),
          le_rfl, by simp [Event.Supersedes]⟩
        cases sending
        exact ⟨q, found, own, delivered⟩
  -- The other events are not those of the select.
  | start cardEvents slotEvents => simp [Watch.select] at accepted
  | cancel => simp [Watch.select] at accepted
  | receive => simp [Watch.select] at accepted
  | answer result => simp [Watch.select] at accepted
  | send => simp [Watch.select] at accepted
  | done => simp [Watch.select] at accepted
  | poll result => simp [Watch.select] at accepted
  | finish query result => simp [Watch.select] at accepted
  | deliver query => simp [Watch.select] at accepted
  | abandon query => simp [Watch.select] at accepted

/-- The goroutine of a query goes on: only its stage changes, and a result is put behind those that wait. -/
theorem queryStep_cases {w w' : Watch} {e : Event} (accepted : w.queryStep e = some w') :
    ∃ query q stage results, w.queries[query]? = some q ∧ q.Pending
      ∧ w' = { w.update query fun q => { q with stage } with enrichmentResults := results }
      ∧ (∀ entry ∈ results, entry ∈ w.enrichmentResults
        ∨ entry.1 = query ∧ entry.2.1 = q.generation ∧ stage = .delivered entry.2.2)
      ∧ (∀ result, stage = .delivering result ∨ stage = .delivered result → q.Returned result ∨ e = .finish query result)
      ∧ ¬e.Supersedes := by
  cases e with
  -- A query that returns has a result, unless its context has ended.
  | finish query result =>
    simp only [Watch.queryStep] at accepted
    split at accepted
    · rename_i q cancelled found
      cases accepted
      refine ⟨query, _, _, w.enrichmentResults, found, .inl rfl, rfl, fun entry => .inl, fun r returned => .inr ?_,
        by simp [Event.Supersedes]⟩
      cases cancelled <;> simp_all
    · cases accepted
  -- A result goes from the goroutine to the channel, and stays what the query returned.
  | deliver query =>
    simp only [Watch.queryStep] at accepted
    split at accepted
    · rename_i result generation cancelled found
      simp only [Option.ite_none_right_eq_some, Option.some.injEq] at accepted
      obtain ⟨-, rfl⟩ := accepted
      refine ⟨query, _, _, _, found, .inr ⟨_, rfl⟩, rfl, fun entry there => ?_, fun r returned => .inl ?_,
        by simp [Event.Supersedes]⟩
      · rcases List.mem_append.mp there with old | new
        · exact .inl old
        · cases List.mem_singleton.mp new
          exact .inr ⟨rfl, rfl, rfl⟩
      · simp_all [Query.Returned]
    · cases accepted
  -- A query that is given up has no result.
  | abandon query =>
    simp only [Watch.queryStep] at accepted
    split at accepted
    · rename_i result generation found
      cases accepted
      exact ⟨query, _, _, w.enrichmentResults, found, .inr ⟨_, rfl⟩, rfl, fun entry => .inl, by simp,
        by simp [Event.Supersedes]⟩
    · cases accepted
  -- The other events are not those of a query.
  | start cardEvents slotEvents => simp [Watch.queryStep] at accepted
  | cancel => simp [Watch.queryStep] at accepted
  | receive => simp [Watch.queryStep] at accepted
  | answer result => simp [Watch.queryStep] at accepted
  | send => simp [Watch.queryStep] at accepted
  | done => simp [Watch.queryStep] at accepted
  | card info => simp [Watch.queryStep] at accepted
  | cardClosed => simp [Watch.queryStep] at accepted
  | slot => simp [Watch.queryStep] at accepted
  | slotClosed => simp [Watch.queryStep] at accepted
  | resync => simp [Watch.queryStep] at accepted
  | enrich => simp [Watch.queryStep] at accepted
  | result => simp [Watch.queryStep] at accepted
  | poll result => simp [Watch.queryStep] at accepted

/-- A query that goes on leaves the others alone. -/
theorem next_queryStep {w w' : Watch} {e : Event} (core : w.Core) (fresh : w.Fresh)
    (accepted : w.queryStep e = some w') : Next e w w' := by
  obtain ⟨query, q, stage, results, found, pending, rfl, entries, returns, other⟩ := queryStep_cases accepted
  refine ⟨core.update found pending results entries, fun i result sending => ?_, fun i q' here => .inl ?_, le_rfl,
    fun supersedes => absurd supersedes other⟩
  · -- What is going to be sent was delivered, so that it is not what goes on.
    obtain ⟨r, there, own, delivered⟩ := fresh i result sending
    have apart : query ≠ i := by
      rintro rfl
      cases found.symm.trans there
      rcases pending with asks | ⟨_, delivers⟩
      · exact absurd (asks.symm.trans delivered) (by simp)
      · exact absurd (delivers.symm.trans delivered) (by simp)
    refine ⟨r, ?_, own, delivered⟩
    rw [Watch.update, List.getElem?_modify_ne _ _ apart, there]
  · -- Every other query is as it was, and the one that goes on returned what it delivers.
    simp only [Watch.update, List.getElem?_modify] at here
    cases there : w.queries[i]? with
    | none => simp [there] at here
    | some r =>
      by_cases same : query = i
      · subst same
        cases found.symm.trans there
        simp only [there, if_true, Option.map_eq_map, Option.map_some, Option.some.injEq] at here
        subst here
        exact ⟨q, rfl, rfl, returns⟩
      · simp only [there, same, if_false, Option.map_eq_map, Option.map_some, Option.some.injEq] at here
        subst here
        exact ⟨r, rfl, rfl, fun _ => .inl⟩

/-- What every step keeps. -/
theorem next_step {w w' : Watch} {e : Event} (core : w.Core) (fresh : w.Fresh) (accepted : w.step e = some w') :
    Next e w w' := by
  -- Only the watch's own events and the queries' are left when the select is taken apart.
  cases e with
  | start cardEvents slotEvents =>
    -- The watch starts to poll, or asks for the initial information.
    simp only [Watch.step, Option.ite_none_right_eq_some] at accepted
    obtain ⟨-, accepted⟩ := accepted
    split at accepted
    · cases accepted
      exact .of_cancels core.cancelAll (fun _ _ => nofun) (cancels_cancelAll w) le_rfl (by simp [Event.Supersedes])
    · cases accepted
      exact next_plain core (fun _ _ => nofun) rfl rfl (by simp [Event.Supersedes])
  | cancel =>
    -- The end of the context reaches every query, but undoes no delivery.
    cases accepted
    refine ⟨core.cancelAll, fun i result sending => ?_, fun i q' found => .inl ((cancels_cancelAll w).queries _ found),
      le_rfl, by simp [Event.Supersedes]⟩
    obtain ⟨q, found, own, delivered⟩ := fresh i result sending
    obtain ⟨q', here, generation, stage⟩ := (cancels_cancelAll w).later found
    exact ⟨q', here, generation.trans own, stage.trans delivered⟩
  | receive =>
    -- The consumer takes a result, which neither the loop nor a query notices.
    simp only [Watch.step, Option.ite_none_left_eq_some, Option.some.injEq] at accepted
    obtain ⟨-, rfl⟩ := accepted
    exact ⟨core, fresh, fun i q' found => .inl ((Cancels.refl _).queries _ found), le_rfl, by simp [Event.Supersedes]⟩
  | answer result =>
    -- Both questions of the loop end it with the context, and are followed by a send otherwise.
    simp only [Watch.step] at accepted
    split at accepted
    · split at accepted
      · cases accepted
        exact next_leave core rfl rfl (by simp [Event.Supersedes])
      · cases accepted
        exact next_plain core (fun _ _ => nofun) rfl rfl (by simp [Event.Supersedes])
    · split at accepted
      · cases accepted
        exact next_leave core rfl rfl (by simp [Event.Supersedes])
      · cases accepted
        exact next_plain core (fun _ _ => nofun) rfl rfl (by simp [Event.Supersedes])
    · cases accepted
  | send =>
    simp only [Watch.step, Option.ite_none_right_eq_some] at accepted
    exact next_sent core accepted.2
  | done =>
    -- Whatever the loop waits for, it returns.
    simp only [Watch.step] at accepted
    split at accepted
    all_goals
      simp only [Option.ite_none_right_eq_some, Option.some.injEq, reduceCtorEq] at accepted
    all_goals
      obtain ⟨-, rfl⟩ := accepted
      exact next_leave core rfl rfl (by simp [Event.Supersedes])
  | poll result =>
    -- A poll touches no query.
    simp only [Watch.step, Option.ite_none_right_eq_some] at accepted
    obtain ⟨⟨polling, -⟩, accepted⟩ := accepted
    split at accepted
    · cases accepted
      exact next_leave core rfl rfl (by simp [Event.Supersedes])
    · cases accepted
      refine next_plain core ?_ rfl rfl (by simp [Event.Supersedes])
      rw [Watch.push, polling]
      exact fun _ _ => nofun
  -- What a goroutine does is a step of its query.
  | finish query result => exact next_queryStep core fresh accepted
  | deliver query => exact next_queryStep core fresh accepted
  | abandon query => exact next_queryStep core fresh accepted
  | card info =>
    -- The remaining events are branches of the select.
    simp only [Watch.step, Option.ite_none_right_eq_some] at accepted
    exact next_select core accepted.1 accepted.2
  | cardClosed =>
    simp only [Watch.step, Option.ite_none_right_eq_some] at accepted
    exact next_select core accepted.1 accepted.2
  | slot =>
    simp only [Watch.step, Option.ite_none_right_eq_some] at accepted
    exact next_select core accepted.1 accepted.2
  | slotClosed =>
    simp only [Watch.step, Option.ite_none_right_eq_some] at accepted
    exact next_select core accepted.1 accepted.2
  | resync =>
    simp only [Watch.step, Option.ite_none_right_eq_some] at accepted
    exact next_select core accepted.1 accepted.2
  | enrich =>
    simp only [Watch.step, Option.ite_none_right_eq_some] at accepted
    exact next_select core accepted.1 accepted.2
  | result =>
    simp only [Watch.step, Option.ite_none_right_eq_some] at accepted
    exact next_select core accepted.1 accepted.2

/-! Runs. -/

/-- The start of a query in a run: what it has returned it returned after that, and nothing has superseded it while its
generation is the current one. -/
def Started (trace : List (Watch × Event)) (w : Watch) : Prop :=
  ∀ (i : Nat) (q : Query), w.queries[i]? = some q → ∃ before s mid,
    trace = before ++ (s, .enrich) :: mid ∧ s.queries.length = i
      ∧ (∀ result, q.Returned result → ∃ t, (t, .finish i result) ∈ mid)
      ∧ (q.generation = w.enrichmentGeneration → ∀ step ∈ mid, ¬step.2.Supersedes)

/-- What holds along every run. -/
theorem run_inv {trace : List (Watch × Event)} {w : Watch} (run : simWatch.Runs trace w) :
    w.Core ∧ w.Fresh ∧ Started trace w := by
  refine Machine.Runs.invariant (P := fun trace w => w.Core ∧ w.Fresh ∧ Started trace w) ?_ ?_ run
  · -- At the start there are no queries.
    refine ⟨⟨nofun, nofun, fun _ => ⟨rfl, nofun⟩, nofun, nofun, nofun⟩, nofun, nofun⟩
  · intro trace s e s' _ known accepted
    obtain ⟨core, fresh, started⟩ := known
    have next := next_step core fresh accepted
    refine ⟨next.core, next.fresh, fun i q' found => ?_⟩
    rcases next.queries i q' found with ⟨q, was, generation, returns⟩ | ⟨rfl, last, asks⟩
    · -- A query that was there was started where it was, and has returned one step earlier or now.
      obtain ⟨before, s₀, mid, rfl, number, returned, current⟩ := started i q was
      refine ⟨before, s₀, mid ++ [(s, e)], by simp, number, fun result now => ?_, fun own step there => ?_⟩
      · rcases returns result now with earlier | rfl
        · obtain ⟨t, there⟩ := returned result earlier
          exact ⟨t, List.mem_append_left _ there⟩
        · exact ⟨s, by simp⟩
      · -- A query of the current generation has seen no newer generation come up.
        have bounded := core.bounded i q was
        have grows := next.grows
        rcases List.mem_append.mp there with earlier | last
        · exact current (by omega) step earlier
        · cases List.mem_singleton.mp last
          intro supersedes
          have newer := next.supersedes supersedes
          omega
    · -- A new query was started by this step, and has returned nothing yet.
      refine ⟨trace, s, [], by simp, last.symm, fun result now => ?_, by simp⟩
      rcases now with delivers | delivered
      · exact absurd (asks.symm.trans delivers) (by simp)
      · exact absurd (asks.symm.trans delivered) (by simp)

/--
No outdated enrichment is sent, in any order of events.

When the result of a query is put into the channel of the consumer, the query was started and has returned that result,
and no card event, slot event or resync was processed since it was started. At any time one query at most has neither
returned nor been cancelled.
-/
theorem sim_enrichment_fresh {trace : List (Watch × Event)} {last : Watch} (run : simWatch.Runs trace last) :
    (∀ earlier w later, trace = earlier ++ (w, .send) :: later →
      ∀ query result, w.phase = .sending (.enrichment query result) →
        ∃ before s mid, earlier = before ++ (s, .enrich) :: mid ∧ s.queries.length = query
          ∧ (∃ t, (t, .finish query result) ∈ mid) ∧ ∀ step ∈ mid, ¬step.2.Supersedes)
    ∧ ∀ (i j : Nat) (q r : Query), last.queries[i]? = some q → last.queries[j]? = some r → q.Live → r.Live → i = j := by
  refine ⟨fun earlier w later split query result sending => ?_, fun i j q r left right live live' => ?_⟩
  · -- A result that is being sent is of a query whose generation is current, so nothing has superseded it.
    subst split
    obtain ⟨-, fresh, started⟩ := run_inv run.accepted.1
    obtain ⟨q, found, own, delivered⟩ := fresh query result sending
    obtain ⟨before, s, mid, split, number, returned, current⟩ := started query q found
    exact ⟨before, s, mid, split, number, returned result (.inr delivered), current own⟩
  · -- A query that goes on is the one that the pointer names.
    obtain ⟨core, -, -⟩ := run_inv run
    have one := core.pending i q left live.2 (.inl live.1)
    have other := core.pending j r right live'.2 (.inl live'.1)
    exact Option.some.inj (one.symm.trans other)

/-- A card event supersedes an enrichment, whose result arrives after the next one was started. -/
def enriching : List Event :=
  [.start true false, .answer { value := { state := 2 } }, .send, .receive, .enrich,
    .finish 0 { value := { state := 2, iccid := [0x37] } }, .card { state := 2 }, .send, .receive, .enrich, .deliver 0,
    .result, .finish 1 { value := { state := 2, iccid := [0x38] } }, .deliver 1, .result, .send]

/-- Both enrichments deliver, the second one is sent, and nothing has happened since it was started. -/
theorem enriching_fresh : ∃ trace last, simWatch.Runs trace last
    ∧ last.queries.map Query.stage = [.delivered { value := { state := 2, iccid := [0x37] } },
      .delivered { value := { state := 2, iccid := [0x38] } }]
    ∧ last.out = [.enrichment 1 { value := { state := 2, iccid := [0x38] } }]
    ∧ (∀ earlier w later, trace = earlier ++ (w, .send) :: later →
      ∀ query result, w.phase = .sending (.enrichment query result) →
        ∃ before s mid, earlier = before ++ (s, .enrich) :: mid ∧ s.queries.length = query
          ∧ (∃ t, (t, .finish query result) ∈ mid) ∧ ∀ step ∈ mid, ¬step.2.Supersedes)
    ∧ ∀ (i j : Nat) (q r : Query), last.queries[i]? = some q → last.queries[j]? = some r → q.Live → r.Live → i = j :=
  ⟨_, _, Machine.Runs.ofEvents simWatch enriching (by decide), by decide, by decide,
    sim_enrichment_fresh (Machine.Runs.ofEvents simWatch enriching (by decide))⟩

end Wwan.Modem.Qmi.SimEnrichment
