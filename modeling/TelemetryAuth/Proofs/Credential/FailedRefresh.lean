import TelemetryAuth.Proofs.Credential.Interleaving

/-!
# Failed refreshes leave no mark

A run is seen turn by turn (`Provider.turns`): who called, what the clock read, what the fetch
brought if one was made, and how the call ended.  Take all turns out of it whose fetch failed or
crashed, and take the outcomes of these fetches out of the back end (`Provider.spared`).  The turns
that are left are then the turns of a run (`turns_of_spared`): a failed refresh leaves the
credential as it was, so the next call finds what it would have found without it.

Providers that have made different numbers of fetches are compared by the outcomes that are still to
come (`Provider.upcoming`).  If these and the credentials agree, the providers are `Alike` and take
the same turns for ever (`Alike.turns_eq`).

The main result is `failed_refreshes_leave_no_mark`, for threads behind a lock that a crash poisons.
-/

namespace TelemetryAuth

open SharedProvider

variable {ι : Type}

/-! ### Turns -/

/-- What one call of a run shows. -/
structure Turn (ι : Type) where
  caller : ι
  reading : Instant
  fetched : Option FetchOutcome
  result : Except CallFailure Grant

namespace Turn

/-- Whether the call made a fetch that brought no token. -/
def refreshFails (turn : Turn ι) : Bool :=
  turn.fetched.any fun outcome => outcome.token?.isNone

/-- Who called, and what the clock read. -/
def call (turn : Turn ι) : ι × Instant := (turn.caller, turn.reading)

/-- The steps of the call. -/
def events (turn : Turn ι) : List (Event ι) :=
  [.acquire turn.caller, .check turn.caller turn.reading] ++
    turn.fetched.toList.flatMap (fun outcome =>
      .fetch turn.caller outcome :: (outcome.token?.map fun _ => .store turn.caller).toList) ++
    [.release turn.caller turn.result]

end Turn

/-- The turns whose fetch, if there was one, brought a token. -/
def settledTurns (turns : List (Turn ι)) : List (Turn ι) :=
  turns.filter fun turn => !turn.refreshFails

/-- Outcomes in front of those of a back end. -/
def Backend.prepend : List FetchOutcome → Backend → Backend
  | [], rest => rest
  | outcome :: outcomes, rest => fun n =>
    match n with
    | 0 => outcome
    | n + 1 => prepend outcomes rest n

theorem Backend.prepend_append (xs ys : List FetchOutcome) (rest : Backend) :
    prepend (xs ++ ys) rest = prepend xs (prepend ys rest) := by
  induction xs with
  | nil => rfl
  | cons outcome xs ih => rw [List.cons_append, prepend, prepend, ih]

/-- What a call does depends on the next outcome only if it makes a fetch. -/
theorem Credential.call_congr {credential : Credential} {now : Instant} {next other : FetchOutcome}
    (h : credential.mustFetch? now = some true → next = other) :
    credential.call now next = credential.call now other := by
  unfold Credential.call
  cases hdue : credential.mustFetch? now with
  | none => rfl
  | some due =>
    cases due with
    | false => rfl
    | true => rw [h hdue]

namespace Provider

/-- What a call shows. -/
def turn (provider : Provider) (caller : ι) (now : Instant) : Turn ι :=
  ⟨caller, now, (provider.fetch? now).map (·.outcome), (provider.grant now).result⟩

/-- What the calls of a run show. -/
def turns (provider : Provider) : List (ι × Instant) → List (Turn ι)
  | [] => []
  | (caller, now) :: later =>
    provider.turn caller now :: (provider.grant now).after.turns later

/-- The outcomes of the fetches that are still to be made. -/
def upcoming (provider : Provider) : Backend := fun n => provider.backend (provider.fetches + n)

/-- Two providers that cannot be told apart from now on. -/
structure Alike (provider other : Provider) : Prop where
  credential : provider.credential = other.credential
  upcoming : provider.upcoming = other.upcoming

/-- A provider whose back end was never asked in vain: of the outcomes that some calls fetch only
the tokens are left, in front of what the calls have not fetched. -/
def spared (provider : Provider) (calls : List (ι × Instant)) : Provider :=
  { provider with
    backend := .prepend ((settledTurns (provider.turns calls)).filterMap (·.fetched))
      (provider.afterRun (calls.map Prod.snd)).upcoming
    fetches := 0 }

/-! ### One call -/

variable {provider other : Provider} {caller : ι} {now : Instant}

theorem fetched_turn (provider : Provider) (caller : ι) (now : Instant) :
    (provider.turn caller now).fetched =
      if provider.credential.mustFetch? now = some true then some (provider.upcoming 0)
      else none := by
  unfold turn upcoming
  cases provider.callCases now with
  | overflow due fetch result after => simp [due, fetch]
  | fresh due fetch result after => simp [due, fetch]
  | failed reason due next fetch result after => simp [due, fetch, next]
  | crashed message due next fetch result after => simp [due, fetch, next]
  | refreshed token due next fetch result after => simp [due, fetch, next]

/-- A fetch takes the first of the outcomes that are to come. -/
theorem upcoming_grant (provider : Provider) (now : Instant) :
    (provider.grant now).after.upcoming =
      if provider.credential.mustFetch? now = some true then fun n => provider.upcoming (n + 1)
      else provider.upcoming := by
  have hshift : provider.counted.upcoming = fun n => provider.upcoming (n + 1) := by
    funext n
    simp only [upcoming, counted, Nat.add_right_comm, Nat.add_assoc]
  cases provider.callCases now with
  | overflow due fetch result after => simp [due, after]
  | fresh due fetch result after => simp [due, after]
  | failed reason due next fetch result after => simp [due, after, hshift]
  | crashed message due next fetch result after => simp [due, after, hshift]
  | refreshed token due next fetch result after =>
    rw [after, if_pos due, ← hshift]
    rfl

/-- What a call shows and makes of the credential is decided by the credential and, if it makes a
fetch, by the next outcome. -/
theorem turn_congr (hcredential : provider.credential = other.credential)
    (hnext : provider.credential.mustFetch? now = some true →
      provider.upcoming 0 = other.upcoming 0) (caller : ι) :
    provider.turn caller now = other.turn caller now ∧
      (provider.grant now).after.credential = (other.grant now).after.credential := by
  have hcall : provider.credential.call now (provider.upcoming 0) =
      other.credential.call now (other.upcoming 0) := by
    rw [Credential.call_congr hnext, hcredential]
  have hresult : (provider.grant now).result = (other.grant now).result :=
    congrArg Credential.Call.result hcall
  have hfetched : (provider.turn caller now).fetched = (other.turn caller now).fetched := by
    rw [fetched_turn, fetched_turn, ← hcredential]
    split_ifs with hdue
    · rw [hnext hdue]
    · rfl
  refine ⟨?_, congrArg Credential.Call.after hcall⟩
  show Turn.mk caller now (provider.turn caller now).fetched (provider.grant now).result = _
  rw [hfetched, hresult]
  rfl

/-- A failed refresh leaves the credential as it was. -/
theorem credential_of_refreshFails (h : (provider.turn caller now).refreshFails = true) :
    (provider.grant now).after.credential = provider.credential := by
  cases provider.callCases now with
  | overflow due fetch result after => rw [after]
  | fresh due fetch result after => rw [after]
  | failed reason due next fetch result after => rw [after]; rfl
  | crashed message due next fetch result after => rw [after]; rfl
  | refreshed token due next fetch result after =>
    simp [Turn.refreshFails, turn, fetch, FetchOutcome.token?] at h

/-! ### Providers that are alike -/

theorem Alike.refl (provider : Provider) : provider.Alike provider := ⟨rfl, rfl⟩

theorem Alike.trans {third : Provider} (h : provider.Alike other) (h' : other.Alike third) :
    provider.Alike third :=
  ⟨h.credential.trans h'.credential, h.upcoming.trans h'.upcoming⟩

/-- Alike providers show the same in a call and are alike after it. -/
theorem Alike.grant (h : provider.Alike other) (caller : ι) (now : Instant) :
    provider.turn caller now = other.turn caller now ∧
      (provider.grant now).after.Alike (other.grant now).after := by
  have hnext : provider.credential.mustFetch? now = some true →
      provider.upcoming 0 = other.upcoming 0 := fun _ => congrFun h.upcoming 0
  obtain ⟨hturn, hcredential⟩ := turn_congr h.credential hnext caller
  refine ⟨hturn, hcredential, ?_⟩
  rw [upcoming_grant, upcoming_grant, h.credential, h.upcoming]

/-- **Alike providers cannot be told apart.** -/
theorem Alike.turns_eq (h : provider.Alike other) (calls : List (ι × Instant)) :
    provider.turns calls = other.turns calls := by
  induction calls generalizing provider other with
  | nil => rfl
  | cons call later ih =>
    obtain ⟨caller, now⟩ := call
    obtain ⟨hturn, hafter⟩ := h.grant caller now
    rw [turns, turns, hturn, ih hafter]

/-! ### Runs without the failed refreshes -/

theorem upcoming_spared (provider : Provider) (calls : List (ι × Instant)) :
    (provider.spared calls).upcoming =
      .prepend ((settledTurns (provider.turns calls)).filterMap (·.fetched))
        (provider.afterRun (calls.map Prod.snd)).upcoming := by
  funext n
  simp only [upcoming, spared, Nat.zero_add]

/-- Without its own failed refresh, a call leaves what is spared of the calls behind it. -/
theorem spared_of_refreshFails (h : (provider.turn caller now).refreshFails = true)
    (later : List (ι × Instant)) :
    provider.spared ((caller, now) :: later) = (provider.grant now).after.spared later := by
  have hsettled : settledTurns (provider.turns ((caller, now) :: later)) =
      settledTurns ((provider.grant now).after.turns later) := by
    simp [settledTurns, turns, h]
  unfold spared
  rw [hsettled, List.map_cons, afterRun_cons, credential_of_refreshFails h]

/-- What a call has fetched with success comes before what is spared of the calls behind it. -/
theorem upcoming_spared_of_settled (h : (provider.turn caller now).refreshFails = false)
    (later : List (ι × Instant)) :
    (provider.spared ((caller, now) :: later)).upcoming =
      .prepend (provider.turn caller now).fetched.toList
        ((provider.grant now).after.spared later).upcoming := by
  have hfetched : (settledTurns (provider.turns ((caller, now) :: later))).filterMap (·.fetched) =
      (provider.turn caller now).fetched.toList ++
        (settledTurns ((provider.grant now).after.turns later)).filterMap (·.fetched) := by
    have hsettled : settledTurns (provider.turns ((caller, now) :: later)) =
        provider.turn caller now :: settledTurns ((provider.grant now).after.turns later) := by
      simp [settledTurns, turns, h]
    rw [hsettled, List.filterMap_cons]
    cases (provider.turn caller now).fetched <;> rfl
  rw [upcoming_spared, upcoming_spared, hfetched, Backend.prepend_append, List.map_cons,
    afterRun_cons]

/-- A call that did not fail is the same call for the provider that was spared, and leaves it
spared. -/
theorem grant_of_spared {later : List (ι × Instant)}
    (hsettled : (provider.turn caller now).refreshFails = false)
    (h : other.Alike (provider.spared ((caller, now) :: later))) :
    other.turn caller now = provider.turn caller now ∧
      (other.grant now).after.Alike ((provider.grant now).after.spared later) := by
  have hcredential : other.credential = provider.credential := h.credential
  have hupcoming := h.upcoming.trans (upcoming_spared_of_settled hsettled later)
  rw [fetched_turn] at hupcoming
  have hnext : other.credential.mustFetch? now = some true →
      other.upcoming 0 = provider.upcoming 0 := by
    intro hdue
    rw [hupcoming, if_pos (hcredential ▸ hdue)]
    rfl
  obtain ⟨hturn, hafter⟩ := turn_congr hcredential hnext caller
  refine ⟨hturn, hafter, ?_⟩
  -- A fetch of this call has taken the outcome in front, and without a fetch there is none.
  rw [upcoming_grant, hcredential, hupcoming]
  split_ifs with hdue
  · rfl
  · rfl

/-- **The turns that did not fail are the turns of a run.**  A provider that is spared the failed
refreshes of some calls takes the other turns, and is left as the calls leave the provider. -/
theorem turns_of_spared {calls : List (ι × Instant)} (h : other.Alike (provider.spared calls)) :
    other.turns ((settledTurns (provider.turns calls)).map Turn.call) =
        settledTurns (provider.turns calls) ∧
      (other.afterRun ((settledTurns (provider.turns calls)).map (·.reading))).Alike
        (provider.afterRun (calls.map Prod.snd)) := by
  induction calls generalizing provider other with
  | nil => exact ⟨rfl, h.trans ⟨rfl, upcoming_spared provider []⟩⟩
  | cons call later ih =>
    obtain ⟨caller, now⟩ := call
    rw [List.map_cons, afterRun_cons]
    cases hfails : (provider.turn caller now).refreshFails with
    | true =>
      -- The call is taken out, and the other provider is where the call has led.
      have hsettled : settledTurns (provider.turns ((caller, now) :: later)) =
          settledTurns ((provider.grant now).after.turns later) := by
        simp [settledTurns, turns, hfails]
      rw [hsettled]
      exact ih (spared_of_refreshFails hfails later ▸ h)
    | false =>
      have hsettled : settledTurns (provider.turns ((caller, now) :: later)) =
          provider.turn caller now :: settledTurns ((provider.grant now).after.turns later) := by
        simp [settledTurns, turns, hfails]
      obtain ⟨hturn, hafter⟩ := grant_of_spared hfails h
      obtain ⟨ihturns, ihafter⟩ := ih hafter
      rw [hsettled, List.map_cons, List.map_cons]
      constructor
      · show other.turn caller now :: (other.grant now).after.turns _ = _
        rw [hturn, ihturns]
      · rw [afterRun_cons]
        exact ihafter

/-! ### The steps of turns -/

/-- The steps of a serial run are those of its turns. -/
theorem serial_eq (provider : Provider) (calls : List (ι × Instant)) :
    provider.serial calls = (provider.turns calls).flatMap Turn.events := by
  induction calls generalizing provider with
  | nil => rfl
  | cons call later ih =>
    obtain ⟨caller, now⟩ := call
    have hblock : provider.block caller now = (provider.turn caller now).events := by
      unfold block Turn.events turn
      cases provider.fetch? now <;> rfl
    rw [serial, turns, List.flatMap_cons, hblock, ih]

end Provider

/-! ### Threads -/

namespace SharedProvider

variable [DecidableEq ι] {start s : SharedProvider ι} {events : List (Event ι)}

/-- No step depends on whether the lock is poisoned. -/
theorem Run.of_poisoned (run : Run start events s) (poisoned : Bool) :
    ∃ poisoned', Run { start with poisoned := poisoned } events
      { s with poisoned := poisoned' } := by
  induction run with
  | done => exact ⟨poisoned, .done⟩
  | step run hstep ih =>
    obtain ⟨poisoned', hrun⟩ := ih
    cases hstep with
    | acquire outside unlocked => exact ⟨_, hrun.step (.acquire outside unlocked)⟩
    | check now entered => exact ⟨_, hrun.step (.check now entered)⟩
    | fetch fetching => exact ⟨_, hrun.step (.fetch fetching)⟩
    | store storing => exact ⟨_, hrun.step (.store storing)⟩
    | answer answering => exact ⟨_, hrun.step (.answer answering)⟩
    | fail failing => exact ⟨_, hrun.step (.fail failing)⟩

/-- **Failed and crashed refreshes leave no mark.**  Take any run of threads from a state without a
call in progress to one with the lock free, and let `settled` be its turns without those whose fetch
failed or crashed.

- The steps of the run are those of its turns, and they are possible all the same if the lock was
  poisoned or sound from the beginning.
- From any state without a call in progress, and with a lock in either condition, whose provider was
  spared the outcomes of the failed fetches, the steps of `settled` are a run; and every run of the
  same callers at the same readings consists of these steps: each call makes the same fetch or none
  and has the same result.
- It leaves the same credential behind, and all later calls show the same. -/
theorem failed_refreshes_leave_no_mark (quiet : start.Quiet) (run : Run start events s)
    (unlocked : s.locked = false) :
    let calls := events.filterMap Event.checked?
    let settled := settledTurns (start.provider.turns calls)
    events = (start.provider.turns calls).flatMap Turn.events ∧
    (∀ poisoned, ∃ poisoned', Run { start with poisoned := poisoned } events
      { s with poisoned := poisoned' }) ∧
    ∀ clean : SharedProvider ι, clean.Quiet → clean.provider = start.provider.spared calls →
      (∃ t, Run clean (settled.flatMap Turn.events) t ∧ t.locked = false) ∧
      ∀ (events' : List (Event ι)) (t : SharedProvider ι), Run clean events' t →
        t.locked = false → events'.filterMap Event.checked? = settled.map Turn.call →
          events' = settled.flatMap Turn.events ∧
          t.provider.credential = s.provider.credential ∧
          ∀ later : List (ι × Instant), t.provider.turns later = s.provider.turns later := by
  intro calls settled
  obtain ⟨-, hserial, hprovider⟩ := run.shows_serial quiet unlocked
  refine ⟨hserial.trans (Provider.serial_eq _ _), run.of_poisoned, ?_⟩
  intro clean hquiet hclean
  have halike : clean.provider.Alike (start.provider.spared calls) := hclean ▸ .refl _
  obtain ⟨hturns, hafter⟩ := Provider.turns_of_spared halike
  have hsteps : clean.provider.serial (settled.map Turn.call) =
      settled.flatMap Turn.events := by
    rw [Provider.serial_eq, show clean.provider.turns (settled.map Turn.call) = settled from hturns]
  constructor
  · obtain ⟨t, hrun, hunlocked⟩ := Run.exists_serial hquiet (settled.map Turn.call)
    exact ⟨t, hsteps ▸ hrun, hunlocked⟩
  · intro events' t hrun hunlocked hcalls
    obtain ⟨-, hserial', hprovider'⟩ := hrun.shows_serial hquiet hunlocked
    rw [hcalls] at hserial' hprovider'
    have hsame : t.provider.Alike s.provider := by
      rw [hprovider', hprovider, List.map_map]
      exact hafter
    exact ⟨hserial'.trans hsteps, hsame.credential, hsame.turns_eq⟩

/-- The provider of `crashingShared` if its back end had not crashed. -/
def crashingSpared : Provider :=
  crashingShared.provider.spared [(true, insideMargin), (false, insideMargin), (true, insideMargin)]

theorem failed_refreshes_leave_no_mark_crashing :
    ∃ s t : SharedProvider Bool, ∃ events events' : List (Event Bool),
      crashingShared.Quiet ∧ Run crashingShared events s ∧ s.locked = false ∧
      s.poisoned = true ∧
      Run { crashingShared with provider := crashingSpared } events' t ∧ t.locked = false ∧
      t.poisoned = false ∧
      events = [.acquire true, .check true insideMargin, .fetch true (.crash "boom"),
        .release true (.error (.crash "boom"))] ++ events' ∧
      t.provider.credential = s.provider.credential ∧
      t.provider.turns [(true, insideMargin)] = s.provider.turns [(true, insideMargin)] := by
  have hquiet : crashingShared.Quiet := ⟨rfl, fun _ => rfl⟩
  let calls := [(true, insideMargin), (false, insideMargin), (true, insideMargin)]
  obtain ⟨s, hrun, hunlocked⟩ := Run.exists_serial hquiet calls
  have hcalls : (crashingShared.provider.serial calls).filterMap Event.checked? = calls := rfl
  obtain ⟨hevents, -, hclean⟩ := failed_refreshes_leave_no_mark hquiet hrun hunlocked
  rw [hcalls] at hevents hclean
  obtain ⟨⟨t, hrun', hunlocked'⟩, hsame⟩ :=
    hclean { crashingShared with provider := crashingSpared } ⟨rfl, fun _ => rfl⟩ rfl
  obtain ⟨-, hcredential, hlater⟩ := hsame _ t hrun' hunlocked' (by rfl)
  refine ⟨s, t, _, _, hquiet, hrun, hunlocked, ?_, hrun', hunlocked', ?_, hevents, hcredential,
    hlater _⟩
  · exact hrun.poisoned_iff.2 (.inr ⟨true, "boom", List.mem_cons_self⟩)
  · rw [← Bool.not_eq_true, hrun'.poisoned_iff]
    rintro (hpoisoned | ⟨caller, message, hcrash⟩)
    · cases hpoisoned
    · have hresults : ((settledTurns (crashingShared.provider.turns calls)).flatMap
          Turn.events).filterMap Event.ended? =
            [(false, .ok ⟨"project", "cached"⟩), (true, .ok ⟨"project", "cached"⟩)] := rfl
      rw [hresults] at hcrash
      simp at hcrash

end SharedProvider

end TelemetryAuth
