import Mathlib.Logic.Function.Basic
import TelemetryAuth.Proofs.Credential.History

/-!
# Threads that share a provider

A provider is shared by threads behind one lock.  A call takes the lock, looks at the clock, makes a
fetch if the credential is stale, stores the token and gives the lock back.  Each of these is a step
of its own (`SharedProvider.Step`), and between two steps of one thread any other thread may move
(`SharedProvider.Run`).  A call that crashes poisons the lock; the next thread takes it all the
same.

A run without interleaving is `Provider.serial`: calls one after the other, each with all its steps
(`Provider.block`).  What such a run shows are the callers, the readings, the fetches and the
results of the sequential calls of `Provider.replies` (`filterMap_serial`).
-/

namespace TelemetryAuth

variable {ι : Type}

/-! ### States and what their steps show -/

namespace SharedProvider

/-- Where a thread stands in its current call. -/
inductive Stage
  | outside
  | entered
  | fetching
  | storing (token : BearerToken)
  | answering
  | failing (failure : CallFailure)
  deriving DecidableEq

namespace Stage

/-- Where the look at the clock leads: to a crash, to an answer, or to a fetch. -/
def ofCheck : Option Bool → Stage
  | none => .failing (.crash Credential.marginCrash)
  | some false => .answering
  | some true => .fetching

/-- Where a fetch leads: a token has to be stored, all else ends the call. -/
def ofOutcome : FetchOutcome → Stage
  | .token token => .storing token
  | .failure reason => .failing (.failed (.refreshFailed reason))
  | .crash message => .failing (.crash message)

end Stage

/-- What a step shows: who made it, and what it read, fetched or answered. -/
inductive Event (ι : Type)
  | acquire (caller : ι)
  | check (caller : ι) (now : Instant)
  | fetch (caller : ι) (outcome : FetchOutcome)
  | store (caller : ι)
  | release (caller : ι) (result : Except CallFailure Grant)

namespace Event

/-- Who took the lock. -/
def acquired? : Event ι → Option ι
  | .acquire caller => some caller
  | _ => none

/-- Who looked at the clock, and what it read. -/
def checked? : Event ι → Option (ι × Instant)
  | .check caller now => some (caller, now)
  | _ => none

/-- Who made a fetch, and what the back end answered. -/
def fetched? : Event ι → Option (ι × FetchOutcome)
  | .fetch caller outcome => some (caller, outcome)
  | _ => none

/-- Whose call ended, and with what result. -/
def ended? : Event ι → Option (ι × Except CallFailure Grant)
  | .release caller result => some (caller, result)
  | _ => none

end Event

end SharedProvider

open SharedProvider

/-- Whether a call crashed. -/
def CallFailure.isCrash : CallFailure → Bool
  | .failed _ => false
  | .crash _ => true

/-- A provider behind a lock, and where each thread stands. -/
structure SharedProvider (ι : Type) where
  provider : Provider
  locked : Bool
  poisoned : Bool
  stage : ι → Stage

/-- No thread is in a call. -/
structure SharedProvider.Quiet (s : SharedProvider ι) : Prop where
  unlocked : s.locked = false
  outside : ∀ i, s.stage i = .outside

/-! ### Runs without interleaving -/

namespace Provider

/-- All steps of one call. -/
def block (provider : Provider) (caller : ι) (now : Instant) : List (Event ι) :=
  [.acquire caller, .check caller now] ++
    (provider.fetch? now).toList.flatMap (fun fetch =>
      .fetch caller fetch.outcome :: (fetch.outcome.token?.map fun _ => .store caller).toList) ++
    [.release caller (provider.grant now).result]

/-- The steps of calls that follow each other, each with its caller and its reading of the clock. -/
def serial (provider : Provider) : List (ι × Instant) → List (Event ι)
  | [] => []
  | (caller, now) :: later => provider.block caller now ++ (provider.grant now).after.serial later

/-- The results of calls that follow each other, each with its caller. -/
def resultsOf (provider : Provider) (calls : List (ι × Instant)) :
    List (ι × Except CallFailure Grant) :=
  (calls.map Prod.fst).zip ((provider.replies (calls.map Prod.snd)).map (·.result))

/-- The fetches of calls that follow each other, each with its caller. -/
def fetchesOf (provider : Provider) : List (ι × Instant) → List (ι × FetchOutcome)
  | [] => []
  | (caller, now) :: later =>
    ((provider.fetch? now).map fun fetch => (caller, fetch.outcome)).toList ++
      (provider.grant now).after.fetchesOf later

/-- What the steps of one call show: one caller, one reading, at most one fetch and one result. -/
theorem filterMap_block (provider : Provider) (caller : ι) (now : Instant) :
    (provider.block caller now).filterMap Event.acquired? = [caller] ∧
      (provider.block caller now).filterMap Event.checked? = [(caller, now)] ∧
      (provider.block caller now).filterMap Event.fetched? =
        ((provider.fetch? now).map fun fetch => (caller, fetch.outcome)).toList ∧
      (provider.block caller now).filterMap Event.ended? =
        [(caller, (provider.grant now).result)] := by
  unfold block
  cases provider.fetch? now with
  | none => exact ⟨rfl, rfl, rfl, rfl⟩
  | some fetch =>
    obtain ⟨reading, outcome⟩ := fetch
    cases outcome <;> exact ⟨rfl, rfl, rfl, rfl⟩

theorem serial_append (provider : Provider) (xs ys : List (ι × Instant)) :
    provider.serial (xs ++ ys) =
      provider.serial xs ++ (provider.afterRun (xs.map Prod.snd)).serial ys := by
  induction xs generalizing provider with
  | nil => rfl
  | cons call xs ih =>
    obtain ⟨caller, now⟩ := call
    simp [serial, ih]

/-- One more call adds its steps to a serial run. -/
theorem serial_concat (provider : Provider) (calls : List (ι × Instant)) (caller : ι)
    (now : Instant) :
    provider.serial (calls ++ [(caller, now)]) =
      provider.serial calls ++ (provider.afterRun (calls.map Prod.snd)).block caller now := by
  rw [serial_append]
  simp [serial]

theorem length_replies (provider : Provider) (clock : List Instant) :
    (provider.replies clock).length = clock.length := by
  induction clock generalizing provider with
  | nil => rfl
  | cons now later ih => simp [replies, ih]

theorem map_fst_resultsOf (provider : Provider) (calls : List (ι × Instant)) :
    (provider.resultsOf calls).map Prod.fst = calls.map Prod.fst := by
  unfold resultsOf
  exact List.map_fst_zip (by simp [length_replies])

/-- The results depend on the readings of the clock and not on the callers. -/
theorem map_snd_resultsOf (provider : Provider) (calls : List (ι × Instant)) :
    (provider.resultsOf calls).map Prod.snd =
      (provider.replies (calls.map Prod.snd)).map (·.result) := by
  unfold resultsOf
  exact List.map_snd_zip (by simp [length_replies])

/-- The fetches depend on the readings of the clock and not on the callers. -/
theorem map_snd_fetchesOf (provider : Provider) (calls : List (ι × Instant)) :
    (provider.fetchesOf calls).map Prod.snd =
      (provider.history (calls.map Prod.snd)).map (·.outcome) := by
  induction calls generalizing provider with
  | nil => rfl
  | cons call later ih =>
    obtain ⟨caller, now⟩ := call
    simp only [fetchesOf, List.map_append, List.map_cons, history_cons, ih]
    cases provider.fetch? now <;> rfl

/-- What the steps of a serial run show: the callers, the readings, the fetches and the results of
its calls. -/
theorem filterMap_serial (provider : Provider) (calls : List (ι × Instant)) :
    (provider.serial calls).filterMap Event.acquired? = calls.map Prod.fst ∧
      (provider.serial calls).filterMap Event.checked? = calls ∧
      (provider.serial calls).filterMap Event.fetched? = provider.fetchesOf calls ∧
      (provider.serial calls).filterMap Event.ended? = provider.resultsOf calls := by
  induction calls generalizing provider with
  | nil => exact ⟨rfl, rfl, rfl, rfl⟩
  | cons call later ih =>
    obtain ⟨caller, now⟩ := call
    obtain ⟨hacquired, hchecked, hfetched, hended⟩ := provider.filterMap_block caller now
    obtain ⟨ihacquired, ihchecked, ihfetched, ihended⟩ := ih (provider.grant now).after
    rw [serial]
    simp only [List.filterMap_append]
    rw [hacquired, hchecked, hfetched, hended, ihacquired, ihchecked, ihfetched, ihended]
    exact ⟨rfl, rfl, rfl, rfl⟩

end Provider

/-! ### Steps and runs -/

namespace SharedProvider

variable [DecidableEq ι]

/-- The steps of the threads.  Only `acquire` looks at the lock, and no step looks at `poisoned`. -/
inductive Step : SharedProvider ι → Event ι → SharedProvider ι → Prop
  /-- A thread takes the free lock. -/
  | acquire {s : SharedProvider ι} {caller : ι} (outside : s.stage caller = .outside)
      (unlocked : s.locked = false) :
      Step s (.acquire caller)
        { s with locked := true, stage := Function.update s.stage caller .entered }
  /-- It reads the clock and checks whether the credential is stale. -/
  | check {s : SharedProvider ι} {caller : ι} (now : Instant)
      (entered : s.stage caller = .entered) :
      Step s (.check caller now)
        { s with
          stage := Function.update s.stage caller
            (.ofCheck (s.provider.credential.mustFetch? now)) }
  /-- The back end answers its fetch with the next outcome. -/
  | fetch {s : SharedProvider ι} {caller : ι} (fetching : s.stage caller = .fetching) :
      Step s (.fetch caller (s.provider.backend s.provider.fetches))
        { s with
          provider := s.provider.counted
          stage := Function.update s.stage caller
            (.ofOutcome (s.provider.backend s.provider.fetches)) }
  /-- It stores the token that was fetched. -/
  | store {s : SharedProvider ι} {caller : ι} {token : BearerToken}
      (storing : s.stage caller = .storing token) :
      Step s (.store caller)
        { s with
          provider := s.provider.stored token
          stage := Function.update s.stage caller .answering }
  /-- It answers with the token held and gives the lock back. -/
  | answer {s : SharedProvider ι} {caller : ι} (answering : s.stage caller = .answering) :
      Step s (.release caller (.ok s.provider.credential.grant))
        { s with locked := false, stage := Function.update s.stage caller .outside }
  /-- It ends without an answer and gives the lock back, poisoned if it crashed. -/
  | fail {s : SharedProvider ι} {caller : ι} {failure : CallFailure}
      (failing : s.stage caller = .failing failure) :
      Step s (.release caller (.error failure))
        { s with
          locked := false
          poisoned := s.poisoned || failure.isCrash
          stage := Function.update s.stage caller .outside }

/-- A run of steps, in any order that the steps allow, with what it showed. -/
inductive Run (start : SharedProvider ι) : List (Event ι) → SharedProvider ι → Prop
  | done : Run start [] start
  | step {events : List (Event ι)} {event : Event ι} {s t : SharedProvider ι}
      (run : Run start events s) (step : Step s event t) : Run start (events ++ [event]) t

end SharedProvider

end TelemetryAuth
