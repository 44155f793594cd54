import TelemetryAuth.Pipeline.Extension

/-!
# Runs that leave a trace

Building a pipeline calls the callbacks of its extensions.  A `Run` is the result of a part of that
work together with the calls that were made (`events`) and what was logged.  Parts are put together
in sequence: the events of the second part follow those of the first, and there is no second part
after an error, so the trace of a failed run ends with the call that failed.
-/

namespace TelemetryAuth.Pipeline

/-- A call of a callback, with the place of its extension and what it was shown. -/
inductive Event
  | customize (place : Nat)
  | supply (place : Nat) (properties : Properties)
  | factory (reported : String) (properties : Properties)
  | exporter (place : Nat) (before : Exporter) (properties : Properties)
  | resource (place : Nat) (before : Resource) (properties : Properties)

/-- A result, the calls made on the way, and what was logged. -/
structure Run (α : Type) where
  result : Except SetupError α
  events : List Event
  log : List Log.Entry

namespace Run

/-- A result without a call. -/
def done {α : Type} (value : α) : Run α := ⟨.ok value, [], []⟩

/-- The second part after the first, unless the first has failed. -/
def andThen {α β : Type} (first : Run α) (second : α → Run β) : Run β :=
  match first.result with
  | .error error => ⟨.error error, first.events, first.log⟩
  | .ok value =>
    let next := second value
    ⟨next.result, first.events ++ next.events, first.log ++ next.log⟩

instance : Monad Run where
  pure := done
  bind := andThen

/-! ### Sequences of parts -/

variable {α β γ : Type}

theorem andThen_of_ok {first : Run α} {value : α} (h : first.result = .ok value)
    (second : α → Run β) :
    first.andThen second =
      ⟨(second value).result, first.events ++ (second value).events,
        first.log ++ (second value).log⟩ := by
  rw [andThen, h]

theorem andThen_of_error {first : Run α} {error : SetupError} (h : first.result = .error error)
    (second : α → Run β) :
    first.andThen second = ⟨.error error, first.events, first.log⟩ := by
  rw [andThen, h]

@[simp] theorem done_andThen (value : α) (second : α → Run β) :
    (done value).andThen second = second value := rfl

@[simp] theorem andThen_done (first : Run α) : first.andThen done = first := by
  obtain ⟨result, events, log⟩ := first
  cases result <;> simp [andThen, done]

theorem andThen_andThen (first : Run α) (second : α → Run β) (third : β → Run γ) :
    (first.andThen second).andThen third = first.andThen fun value =>
      (second value).andThen third := by
  obtain ⟨result, events, log⟩ := first
  cases result with
  | error error => rfl
  | ok value =>
    simp only [andThen]
    cases (second value).result <;> simp

/-! ### Single steps -/

/-- Logs entries. -/
def write (entries : List Log.Entry) : Run Unit := ⟨.ok (), [], entries⟩

/-- Records a call. -/
def record (event : Event) : Run Unit := ⟨.ok (), [event], []⟩

/-- A result that was computed elsewhere. -/
def lift {α : Type} (result : Except SetupError α) : Run α := ⟨result, [], []⟩

end Run

end TelemetryAuth.Pipeline
