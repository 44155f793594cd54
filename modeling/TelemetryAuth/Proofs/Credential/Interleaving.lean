import Mathlib.Data.List.Induction
import TelemetryAuth.Proofs.Credential.Threads

/-!
# Every interleaving is a serial run

While a thread is in a call it has the lock, so the steps of its call follow each other without the
steps of others in between.  The invariant `Serialized` says so: a run has made the steps of a
serial run and, while the lock is taken, some steps of one call more (`Midway`).  Each step keeps it
(`Serialized.step`), hence every run has it (`Run.serialized`), and every statement about
interleavings comes down to one about the sequential calls of `Provider.replies`.  Conversely each
sequence of calls occurs as a run (`Run.exists_serial`).

The main result is `interleaving_linearizable`.
-/

namespace TelemetryAuth.SharedProvider

variable {ι : Type}

/-! ### A call in progress -/

/-- How far a call has come that took the lock when the provider was `before`: the provider and the
steps `sofar` it has made until now, by the stage that it has reached. -/
def Midway (before : Provider) (caller : ι) (provider : Provider) (sofar : List (Event ι)) :
    Stage → Prop
  | .outside => False
  | .entered => provider = before ∧ sofar = [.acquire caller]
  | .fetching => ∃ now, before.credential.mustFetch? now = some true ∧ provider = before ∧
      sofar = [.acquire caller, .check caller now]
  | .storing token => ∃ now, before.credential.mustFetch? now = some true ∧
      before.backend before.fetches = .token token ∧ provider = before.counted ∧
      sofar = [.acquire caller, .check caller now, .fetch caller (.token token)]
  | .answering => ∃ now, provider = (before.grant now).after ∧
      before.block caller now = sofar ++ [.release caller (.ok provider.credential.grant)]
  | .failing failure => ∃ now, provider = (before.grant now).after ∧
      before.block caller now = sofar ++ [.release caller (.error failure)]

/-- A call that fetches a token stores it and answers with it. -/
theorem block_of_token (before : Provider) (caller : ι) {now : Instant} {token : BearerToken}
    (hdue : before.credential.mustFetch? now = some true)
    (hnext : before.backend before.fetches = .token token) :
    (before.grant now).after = before.counted.stored token ∧
      before.block caller now =
        [.acquire caller, .check caller now, .fetch caller (.token token), .store caller,
          .release caller (.ok (before.counted.stored token).credential.grant)] := by
  cases before.callCases now with
  | overflow due fetch result after => simp [due] at hdue
  | fresh due fetch result after => simp [due] at hdue
  | failed reason due next fetch result after => simp [next] at hnext
  | crashed message due next fetch result after => simp [next] at hnext
  | refreshed other due next fetch result after =>
    obtain rfl : other = token := by simpa [next] using hnext
    refine ⟨after, ?_⟩
    simp [Provider.block, fetch, result, FetchOutcome.token?, Provider.counted, Provider.stored]

/-- The look at the clock takes a call to its next stage. -/
theorem midway_check (before : Provider) (caller : ι) (now : Instant) :
    Midway before caller before [.acquire caller, .check caller now]
      (.ofCheck (before.credential.mustFetch? now)) := by
  cases before.callCases now with
  | overflow due fetch result after =>
    rw [due]
    exact ⟨now, after.symm, by simp [Provider.block, fetch, result]⟩
  | fresh due fetch result after =>
    rw [due]
    exact ⟨now, after.symm, by simp [Provider.block, fetch, result]⟩
  | failed reason due next fetch result after =>
    rw [due]
    exact ⟨now, due, rfl, rfl⟩
  | crashed message due next fetch result after =>
    rw [due]
    exact ⟨now, due, rfl, rfl⟩
  | refreshed token due next fetch result after =>
    rw [due]
    exact ⟨now, due, rfl, rfl⟩

/-- The end of a fetch takes a call to its next stage. -/
theorem midway_fetch (before : Provider) (caller : ι) {now : Instant}
    (hdue : before.credential.mustFetch? now = some true) :
    Midway before caller before.counted
      [.acquire caller, .check caller now, .fetch caller (before.backend before.fetches)]
      (.ofOutcome (before.backend before.fetches)) := by
  cases before.callCases now with
  | overflow due fetch result after => simp [due] at hdue
  | fresh due fetch result after => simp [due] at hdue
  | failed reason due next fetch result after =>
    rw [next]
    exact ⟨now, after.symm, by simp [Provider.block, fetch, result, FetchOutcome.token?]⟩
  | crashed message due next fetch result after =>
    rw [next]
    exact ⟨now, after.symm, by simp [Provider.block, fetch, result, FetchOutcome.token?]⟩
  | refreshed token due next fetch result after =>
    rw [next]
    exact ⟨now, due, next, rfl, rfl⟩

/-- A call in progress has shown its caller; once it has shown its reading of the clock, its steps
are the first of the call that reads the clock then. -/
theorem shown_of_midway {before provider : Provider} {caller : ι} {sofar : List (Event ι)}
    {stage : Stage} (h : Midway before caller provider sofar stage) :
    sofar.filterMap Event.acquired? = [caller] ∧
      (sofar = [.acquire caller] ∨ ∃ now, sofar <+: before.block caller now ∧
        sofar.filterMap Event.checked? = [(caller, now)]) := by
  -- From the block of the call to the steps before its last one.
  have hends : ∀ {now : Instant} {result : Except CallFailure Grant},
      before.block caller now = sofar ++ [.release caller result] →
      sofar.filterMap Event.acquired? = [caller] ∧
        (sofar = [.acquire caller] ∨ ∃ now, sofar <+: before.block caller now ∧
          sofar.filterMap Event.checked? = [(caller, now)]) := by
    intro now result hblock
    obtain ⟨hacquired, hchecked, -, -⟩ := before.filterMap_block caller now
    rw [hblock, List.filterMap_append] at hacquired hchecked
    exact ⟨(List.append_nil _).symm.trans hacquired, .inr ⟨now, hblock ▸ List.prefix_append _ _,
      (List.append_nil _).symm.trans hchecked⟩⟩
  cases stage with
  | outside => exact h.elim
  | entered =>
    obtain ⟨-, rfl⟩ := h
    exact ⟨rfl, .inl rfl⟩
  | fetching =>
    obtain ⟨now, -, -, rfl⟩ := h
    refine ⟨rfl, .inr ⟨now, ?_, rfl⟩⟩
    rw [Provider.block, List.append_assoc]
    exact List.prefix_append _ _
  | storing token =>
    obtain ⟨now, hdue, hnext, -, rfl⟩ := h
    obtain ⟨-, hblock⟩ := block_of_token before caller hdue hnext
    exact ⟨rfl, .inr ⟨now, ⟨_, hblock.symm⟩, rfl⟩⟩
  | answering =>
    obtain ⟨now, -, hblock⟩ := h
    exact hends hblock
  | failing failure =>
    obtain ⟨now, -, hblock⟩ := h
    exact hends hblock

/-! ### The invariant -/

/-- A run has made the steps of calls that follow each other and, while the lock is taken, some
steps of one call more. -/
inductive Serialized (start : SharedProvider ι) (events : List (Event ι)) (s : SharedProvider ι) :
    Prop
  | free (calls : List (ι × Instant)) (quiet : s.Quiet)
      (provider : s.provider = start.provider.afterRun (calls.map Prod.snd))
      (events : events = start.provider.serial calls)
  | held (calls : List (ι × Instant)) (caller : ι) (sofar : List (Event ι))
      (locked : s.locked = true) (others : ∀ i, i ≠ caller → s.stage i = .outside)
      (midway : Midway (start.provider.afterRun (calls.map Prod.snd)) caller s.provider sofar
        (s.stage caller))
      (events : events = start.provider.serial calls ++ sofar)

variable {start s t : SharedProvider ι} {events : List (Event ι)} {caller : ι}

/-- A thread that is inside has the lock, and it is alone. -/
theorem Serialized.holder {stage : Stage} (h : Serialized start events s)
    (hstage : s.stage caller = stage) (inside : stage ≠ .outside) :
    s.locked = true ∧ (∀ i, i ≠ caller → s.stage i = .outside) ∧
      ∃ calls sofar,
        Midway (start.provider.afterRun (calls.map Prod.snd)) caller s.provider sofar stage ∧
        events = start.provider.serial calls ++ sofar := by
  subst hstage
  cases h with
  | free calls quiet provider events => exact absurd (quiet.outside caller) inside
  | held calls owner sofar locked others midway events =>
    have howner : caller = owner := by
      by_contra hne
      exact inside (others caller hne)
    subst howner
    exact ⟨locked, others, calls, sofar, midway, events⟩

variable [DecidableEq ι]

namespace Serialized

/-- The others stay outside when one thread moves. -/
theorem others_update {stage : Stage} (others : ∀ i, i ≠ caller → s.stage i = .outside) :
    ∀ i, i ≠ caller → Function.update s.stage caller stage i = .outside := by
  intro i hi
  rw [Function.update_of_ne hi]
  exact others i hi

/-- The end of a call: its steps make one more call of the serial run, and the lock is free. -/
theorem finish {calls : List (ι × Instant)} {sofar : List (Event ι)} {now : Instant}
    {event : Event ι} {poisoned : Bool}
    (others : ∀ i, i ≠ caller → s.stage i = .outside)
    (provider : s.provider = ((start.provider.afterRun (calls.map Prod.snd)).grant now).after)
    (block : (start.provider.afterRun (calls.map Prod.snd)).block caller now = sofar ++ [event])
    (hevents : events = start.provider.serial calls ++ sofar) :
    Serialized start (events ++ [event])
      { s with
        locked := false
        poisoned := poisoned
        stage := Function.update s.stage caller .outside } := by
  refine .free (calls ++ [(caller, now)]) ⟨rfl, fun i => ?_⟩ ?_ ?_
  · by_cases hi : i = caller
    · rw [hi]
      exact Function.update_self ..
    · exact others_update others i hi
  · rw [List.map_append, Provider.afterRun_append]
    exact provider
  · rw [Provider.serial_concat, block, hevents, List.append_assoc]

/-- **Every step keeps the invariant.**  A step of a thread outside takes the free lock; a step of a
thread inside is the next step of the only call that has begun. -/
theorem step {event : Event ι} (h : Serialized start events s) (hstep : Step s event t) :
    Serialized start (events ++ [event]) t := by
  cases hstep with
  | @acquire caller outside unlocked =>
    cases h with
    | held calls owner sofar locked others midway events => simp [unlocked] at locked
    | free calls quiet provider events =>
      refine .held calls caller [.acquire caller] rfl (others_update fun i _ => quiet.outside i)
        ?_ (by rw [events])
      simpa using ⟨provider, rfl⟩
  | @check caller now entered =>
    -- Here and below the stage tells which steps the call has made and what the provider is.
    obtain ⟨hlocked, hothers, calls, sofar, hmidway, rfl⟩ := h.holder entered (by simp)
    obtain ⟨hprovider, rfl⟩ := hmidway
    refine .held calls caller [.acquire caller, .check caller now] hlocked
      (others_update hothers) ?_ (by simp)
    simpa [hprovider] using midway_check _ caller now
  | @fetch caller fetching =>
    obtain ⟨hlocked, hothers, calls, sofar, hmidway, rfl⟩ := h.holder fetching (by simp)
    obtain ⟨now, hdue, hprovider, rfl⟩ := hmidway
    refine .held calls caller _ hlocked (others_update hothers) ?_ (List.append_assoc _ _ _)
    simpa [hprovider] using midway_fetch _ caller hdue
  | @store caller token storing =>
    obtain ⟨hlocked, hothers, calls, sofar, hmidway, rfl⟩ := h.holder storing (by simp)
    obtain ⟨now, hdue, hnext, hprovider, rfl⟩ := hmidway
    obtain ⟨hafter, hblock⟩ := block_of_token _ caller hdue hnext
    refine .held calls caller _ hlocked (others_update hothers) ?_ (List.append_assoc _ _ _)
    simpa [hprovider] using ⟨now, hafter.symm, hblock⟩
  | @answer caller answering =>
    obtain ⟨hlocked, hothers, calls, sofar, hmidway, hevents⟩ := h.holder answering (by simp)
    obtain ⟨now, hprovider, hblock⟩ := hmidway
    exact finish hothers hprovider hblock hevents
  | @fail caller failure failing =>
    obtain ⟨hlocked, hothers, calls, sofar, hmidway, hevents⟩ := h.holder failing (by simp)
    obtain ⟨now, hprovider, hblock⟩ := hmidway
    exact finish hothers hprovider hblock hevents

end Serialized

/-! ### What a run shows -/

namespace Run

/-- **Every run is serialized.** -/
theorem serialized (quiet : start.Quiet) (run : Run start events s) :
    Serialized start events s := by
  induction run with
  | done => exact .free [] quiet rfl rfl
  | step run hstep ih => exact ih.step hstep

/-- The lock is poisoned exactly if a call has crashed. -/
theorem poisoned_iff (run : Run start events s) :
    s.poisoned = true ↔ start.poisoned = true ∨
      ∃ caller message, (caller, .error (.crash message)) ∈ events.filterMap Event.ended? := by
  induction run with
  | done => simp
  | step run hstep ih =>
    rw [List.filterMap_append]
    cases hstep with
    | acquire outside unlocked => simpa [Event.ended?] using ih
    | check now entered => simpa [Event.ended?] using ih
    | fetch fetching => simpa [Event.ended?] using ih
    | store storing => simpa [Event.ended?] using ih
    | answer answering => simpa [Event.ended?] using ih
    | @fail caller failure failing =>
      cases failure with
      | failed error => simpa [Event.ended?, CallFailure.isCrash] using ih
      | crash message =>
        -- The lock is poisoned now, and this crash is among the results.
        simp only [CallFailure.isCrash, Bool.or_true, true_iff]
        exact .inr ⟨caller, message, List.mem_append_right _ List.mem_cons_self⟩

/-- At most one thread is between taking the lock and giving it back. -/
theorem eq_of_inside (quiet : start.Quiet) (run : Run start events s) {i j : ι}
    (hi : s.stage i ≠ .outside) (hj : s.stage j ≠ .outside) : i = j := by
  obtain ⟨-, hothers, -⟩ := (run.serialized quiet).holder rfl hj
  by_contra hne
  exact hi (hothers i hne)

/-- While the lock is free, a run shows what the calls show that follow each other at the readings
of the clock. -/
theorem shows_serial (quiet : start.Quiet) (run : Run start events s)
    (unlocked : s.locked = false) :
    s.Quiet ∧
      events = start.provider.serial (events.filterMap Event.checked?) ∧
      s.provider =
        start.provider.afterRun ((events.filterMap Event.checked?).map Prod.snd) := by
  cases run.serialized quiet with
  | held calls caller sofar locked others midway events => simp [unlocked] at locked
  | free calls hquiet provider events =>
    obtain ⟨-, hchecked, -, -⟩ := start.provider.filterMap_serial calls
    rw [events, hchecked]
    exact ⟨hquiet, rfl, provider⟩

/-- While the lock is free, a run shows the callers, the fetches and the results of the calls that
follow each other at the readings of the clock. -/
theorem shows_calls (quiet : start.Quiet) (run : Run start events s) (unlocked : s.locked = false) :
    let calls := events.filterMap Event.checked?
    events.filterMap Event.acquired? = calls.map Prod.fst ∧
      events.filterMap Event.fetched? = start.provider.fetchesOf calls ∧
      events.filterMap Event.ended? = start.provider.resultsOf calls ∧
      s.provider = start.provider.afterRun (calls.map Prod.snd) := by
  intro calls
  obtain ⟨-, hserial, hprovider⟩ := run.shows_serial quiet unlocked
  obtain ⟨hacquired, -, hfetched, hended⟩ := start.provider.filterMap_serial calls
  rw [← hserial] at hacquired hfetched hended
  exact ⟨hacquired, hfetched, hended, hprovider⟩

/-- At any time, each thread that read the clock has the lock or had it, in this order, and what a
run shows is the beginning of what the calls show that follow each other at these readings. -/
theorem prefix_serial (quiet : start.Quiet) (run : Run start events s) :
    let calls := events.filterMap Event.checked?
    calls.map Prod.fst <+: events.filterMap Event.acquired? ∧
      events.filterMap Event.fetched? <+: start.provider.fetchesOf calls ∧
      events.filterMap Event.ended? <+: start.provider.resultsOf calls := by
  intro calls
  cases run.serialized quiet with
  | free done hquiet provider hevents =>
    obtain ⟨hacquired, hchecked, hfetched, hended⟩ := start.provider.filterMap_serial done
    have hcalls : calls = done := by rw [← hchecked, ← hevents]
    rw [hcalls, hevents, hacquired, hfetched, hended]
    exact ⟨List.prefix_rfl, List.prefix_rfl, List.prefix_rfl⟩
  | held done caller sofar locked others midway hevents =>
    obtain ⟨hacquired, hchecked, hfetched, hended⟩ := start.provider.filterMap_serial done
    obtain ⟨hcaller, hsofar⟩ := shown_of_midway midway
    have htaken : events.filterMap Event.acquired? = done.map Prod.fst ++ [caller] := by
      rw [hevents, List.filterMap_append, hacquired, hcaller]
    obtain rfl | ⟨now, hprefix, hreading⟩ := hsofar
    · -- The last caller has taken the lock and done nothing else.
      have hcalls : calls = done := by
        rw [← List.append_nil done, ← hchecked]
        simp only [calls, hevents, List.filterMap_append]
        rfl
      rw [htaken, hcalls, hevents, List.filterMap_append, List.filterMap_append, hfetched, hended]
      exact ⟨List.prefix_append _ _, (List.append_nil _).symm ▸ List.prefix_rfl,
        (List.append_nil _).symm ▸ List.prefix_rfl⟩
    · -- The last caller has made the first steps of its call.
      have hcalls : calls = done ++ [(caller, now)] := by
        simp only [calls, hevents, List.filterMap_append, hchecked, hreading]
      have hserial : events <+: start.provider.serial calls := by
        rw [hcalls, Provider.serial_concat, hevents]
        exact (List.prefix_append_right_inj _).2 hprefix
      obtain ⟨-, -, hfetched', hended'⟩ := start.provider.filterMap_serial calls
      rw [← hfetched', ← hended']
      refine ⟨?_, hserial.filterMap _, hserial.filterMap _⟩
      rw [htaken, hcalls, List.map_append]
      exact List.prefix_rfl

/-- A thread that moved is at the stage where its step led. -/
theorem stage_moved {stages : ι → Stage} {reached stage : Stage} (h : reached = stage) :
    Function.update stages caller reached caller = stage := by
  rw [Function.update_self, h]

/-- From a quiet state, a thread may make all steps of a call. -/
theorem exists_block (hquiet : s.Quiet) (run : Run start events s) (caller : ι) (now : Instant) :
    ∃ t, Run start (events ++ s.provider.block caller now) t ∧ t.locked = false := by
  have hentered := run.step (.acquire (hquiet.outside caller) hquiet.unlocked)
  have hchecked := hentered.step (.check now (Function.update_self ..))
  -- What the thread has to do now depends on the check and on what the back end will answer.
  cases s.provider.callCases now with
  | overflow due fetch result after =>
    have hdone := hchecked.step (.fail (stage_moved (congrArg Stage.ofCheck due)))
    exact ⟨_, by simpa [Provider.block, fetch, result] using hdone, rfl⟩
  | fresh due fetch result after =>
    have hdone := hchecked.step (.answer (stage_moved (congrArg Stage.ofCheck due)))
    exact ⟨_, by simpa [Provider.block, fetch, result] using hdone, rfl⟩
  | failed reason due next fetch result after =>
    have hfetched := hchecked.step (.fetch (stage_moved (congrArg Stage.ofCheck due)))
    have hdone := hfetched.step (.fail (stage_moved (congrArg Stage.ofOutcome next)))
    exact ⟨_, by simpa [Provider.block, fetch, next, result, FetchOutcome.token?] using hdone, rfl⟩
  | crashed message due next fetch result after =>
    have hfetched := hchecked.step (.fetch (stage_moved (congrArg Stage.ofCheck due)))
    have hdone := hfetched.step (.fail (stage_moved (congrArg Stage.ofOutcome next)))
    exact ⟨_, by simpa [Provider.block, fetch, next, result, FetchOutcome.token?] using hdone, rfl⟩
  | refreshed token due next fetch result after =>
    have hfetched := hchecked.step (.fetch (stage_moved (congrArg Stage.ofCheck due)))
    have hstored := hfetched.step (.store (stage_moved (congrArg Stage.ofOutcome next)))
    have hdone := hstored.step (.answer (Function.update_self ..))
    obtain ⟨-, hblock⟩ := block_of_token s.provider caller due next
    exact ⟨_, by simpa [hblock, next] using hdone, rfl⟩

/-- **Every sequence of calls occurs as a run.** -/
theorem exists_serial (quiet : start.Quiet) (calls : List (ι × Instant)) :
    ∃ s, Run start (start.provider.serial calls) s ∧ s.locked = false := by
  induction calls using List.reverseRecOn with
  | nil => exact ⟨start, .done, quiet.unlocked⟩
  | append_singleton calls call ih =>
    obtain ⟨caller, now⟩ := call
    obtain ⟨s, hrun, hunlocked⟩ := ih
    obtain ⟨hquiet, -, hprovider⟩ := hrun.shows_serial quiet hunlocked
    obtain ⟨-, hchecked, -, -⟩ := start.provider.filterMap_serial calls
    rw [hchecked] at hprovider
    rw [Provider.serial_concat, ← hprovider]
    exact hrun.exists_block hquiet caller now

end Run

/-! ### Linearizability -/

/-- **Calls of threads that share a provider are linearizable.**  Take any run from a state without
a call in progress, for any number of threads and calls, with crashes while the lock is held.  Let
`calls` be who read the clock and what it read, in order.

* At most one thread is between taking the lock and giving it back, so no two fetches overlap.
* At any time, `calls` is in the order in which the lock was taken, and the fetches and the results
  seen are the first of those of the sequential calls at these readings.
* While the lock is free they are all of them, and the provider is the one that the sequential calls
  leave behind.
* The lock is poisoned exactly if a call has crashed.
* If the clock stands still, the results, the fetches and the provider at the end are those of any
  other run with as many calls, whoever makes them. -/
theorem interleaving_linearizable {start s : SharedProvider ι} {events : List (Event ι)}
    (quiet : start.Quiet) (run : Run start events s) :
    let calls := events.filterMap Event.checked?
    (∀ i j, s.stage i ≠ .outside → s.stage j ≠ .outside → i = j) ∧
    (calls.map Prod.fst <+: events.filterMap Event.acquired? ∧
      events.filterMap Event.fetched? <+: start.provider.fetchesOf calls ∧
      events.filterMap Event.ended? <+: start.provider.resultsOf calls) ∧
    (s.locked = false →
      events.filterMap Event.acquired? = calls.map Prod.fst ∧
      events.filterMap Event.fetched? = start.provider.fetchesOf calls ∧
      events.filterMap Event.ended? = start.provider.resultsOf calls ∧
      s.provider = start.provider.afterRun (calls.map Prod.snd)) ∧
    (s.poisoned = true ↔ start.poisoned = true ∨
      ∃ caller message, (caller, .error (.crash message)) ∈ events.filterMap Event.ended?) ∧
    ∀ {κ : Type} [DecidableEq κ] {start' s' : SharedProvider κ} {events' : List (Event κ)}
      (now : Instant), start'.Quiet → Run start' events' s' → start'.provider = start.provider →
      s.locked = false → s'.locked = false →
      (∀ call ∈ calls, call.2 = now) → (∀ call ∈ events'.filterMap Event.checked?, call.2 = now) →
      (events.filterMap Event.acquired?).length = (events'.filterMap Event.acquired?).length →
      (events.filterMap Event.ended?).map Prod.snd =
          (events'.filterMap Event.ended?).map Prod.snd ∧
        (events.filterMap Event.fetched?).map Prod.snd =
          (events'.filterMap Event.fetched?).map Prod.snd ∧
        s.provider = s'.provider := by
  intro calls
  refine ⟨fun i j => run.eq_of_inside quiet, run.prefix_serial quiet, fun unlocked => ?_,
    run.poisoned_iff, ?_⟩
  · exact run.shows_calls quiet unlocked
  · intro κ _ start' s' events' now quiet' run' hstart unlocked unlocked' hcalls hcalls' hcount
    obtain ⟨hacquired, hfetched, hended, hprovider⟩ := run.shows_calls quiet unlocked
    obtain ⟨hacquired', hfetched', hended', hprovider'⟩ := run'.shows_calls quiet' unlocked'
    -- With the clock at rest, runs with as many calls have the same readings.
    have hreadings : calls.map Prod.snd = (events'.filterMap Event.checked?).map Prod.snd := by
      rw [List.map_eq_replicate_iff.2 hcalls, List.map_eq_replicate_iff.2 hcalls']
      rw [hacquired, hacquired', List.length_map, List.length_map] at hcount
      rw [hcount]
    rw [hended, hended', hfetched, hfetched', hprovider, hprovider',
      Provider.map_snd_resultsOf, Provider.map_snd_resultsOf, Provider.map_snd_fetchesOf,
      Provider.map_snd_fetchesOf, hreadings, hstart]
    exact ⟨rfl, rfl, rfl⟩

/-- Threads `true` and `false` at a provider whose back end crashes once and then hands out a token
that is about to expire, again and again. -/
def crashingShared : SharedProvider Bool :=
  ⟨⟨Backend.ofList [.crash "boom", .token cachedToken], ⟨"project", none, false⟩, 0⟩, false, false,
    fun _ => .outside⟩

theorem interleaving_linearizable_crashing :
    ∃ s t : SharedProvider Bool, ∃ events events' : List (Event Bool),
      crashingShared.Quiet ∧ Run crashingShared events s ∧ Run crashingShared events' t ∧
      s.locked = false ∧ t.locked = false ∧
      events.filterMap Event.acquired? = [true, false, true] ∧
      events'.filterMap Event.acquired? = [false, false, true] ∧
      events.filterMap Event.ended? =
        [(true, .error (.crash "boom")), (false, .ok ⟨"project", "cached"⟩),
          (true, .ok ⟨"project", "cached"⟩)] ∧
      s.poisoned = true ∧
      (events.filterMap Event.ended?).map Prod.snd =
        (events'.filterMap Event.ended?).map Prod.snd ∧
      s.provider = t.provider ∧ ∀ i j, s.stage i ≠ .outside → s.stage j ≠ .outside → i = j := by
  have hquiet : crashingShared.Quiet := ⟨rfl, fun _ => rfl⟩
  let calls := [(true, insideMargin), (false, insideMargin), (true, insideMargin)]
  let calls' := [(false, insideMargin), (false, insideMargin), (true, insideMargin)]
  obtain ⟨s, hrun, hunlocked⟩ := Run.exists_serial hquiet calls
  obtain ⟨t, hrun', hunlocked'⟩ := Run.exists_serial hquiet calls'
  obtain ⟨hone, -, hserial, hpoisoned, hstill⟩ := interleaving_linearizable hquiet hrun
  obtain ⟨-, -, hended, -⟩ := hserial hunlocked
  obtain ⟨hresults, -, hprovider⟩ := hstill insideMargin hquiet hrun' rfl hunlocked hunlocked'
    (by decide +kernel) (by decide +kernel) (by decide +kernel)
  have hends : (crashingShared.provider.serial calls).filterMap Event.ended? =
      [(true, .error (.crash "boom")), (false, .ok ⟨"project", "cached"⟩),
        (true, .ok ⟨"project", "cached"⟩)] := hended.trans (by rfl)
  refine ⟨s, t, _, _, hquiet, hrun, hrun', hunlocked, hunlocked', by rfl, by rfl, hends,
    hpoisoned.2 (.inr ⟨true, "boom", ?_⟩), hresults, hprovider, hone⟩
  rw [hends]
  exact List.mem_cons_self

end TelemetryAuth.SharedProvider
