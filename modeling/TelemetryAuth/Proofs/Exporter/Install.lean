import Mathlib.Tactic.SplitIfs
import TelemetryAuth.Exporter.Install

/-!
# Why an exporter is not installed

Each check of an exporter fails for a reason of the exporter (`SetupError.exporter`), so the whole
installation does (`Exporter.error_of_install`).  Where an installation fails, no option was missing
and no credential was refused.
-/

namespace TelemetryAuth

theorem error_of_bind {ε α β : Type} {first : Except ε α} {second : α → Except ε β} {error : ε}
    (h : first >>= second = .error error) :
    first = .error error ∨ ∃ value, first = .ok value ∧ second value = .error error := by
  cases first with
  | error other =>
    obtain rfl := Except.error.inj h
    exact .inl rfl
  | ok value => exact .inr ⟨value, rfl, h⟩

theorem TransportExporter.error_of_checkMetadata {headers : CallHeaders} {order : HeaderOrder}
    {error : SetupError} (h : checkMetadata headers order = .error error) :
    ∃ reason, error = .exporter reason := by
  unfold checkMetadata at h
  split at h
  · cases h
  · exact ⟨_, (Except.error.inj h).symm⟩

theorem Compression.error_of_check {process : Environment} {transport : Transport}
    {error : SetupError} (h : check process transport = .error error) :
    ∃ reason, error = .exporter reason := by
  unfold check at h
  split at h
  · cases h
  · exact ⟨_, (Except.error.inj h).symm⟩

theorem TransportExporter.error_of_checkEndpoint {endpoint : String} {error : SetupError}
    (h : checkEndpoint endpoint = .error error) : ∃ reason, error = .exporter reason := by
  unfold checkEndpoint at h
  split at h
  · cases h
  · exact ⟨_, (Except.error.inj h).symm⟩

theorem TransportExporter.error_of_checkHost {uri : Uri} {error : SetupError}
    (h : checkHost uri = .error error) : ∃ reason, error = .exporter reason := by
  unfold checkHost at h
  split at h
  · split_ifs at h
    exact ⟨_, (Except.error.inj h).symm⟩
  · exact ⟨_, (Except.error.inj h).symm⟩

/-- An exporter is not installed for a reason of its own. -/
theorem TransportExporter.error_of_install {process : Environment} {exporter : TransportExporter}
    {order : HeaderOrder} {error : SetupError} (h : exporter.install process order = .error error) :
    ∃ reason, error = .exporter reason := by
  unfold install at h
  dsimp only at h
  split at h
  · rcases error_of_bind h with h | ⟨-, -, h⟩
    · exact error_of_checkMetadata h
    rcases error_of_bind h with h | ⟨-, -, h⟩
    · exact Compression.error_of_check h
    rcases error_of_bind h with h | ⟨uri, -, h⟩
    · exact error_of_checkEndpoint h
    split_ifs at h
    · exact error_of_checkHost h
    · cases h
  · split_ifs at h
    · rcases error_of_bind h with h | ⟨-, -, h⟩
      · exact error_of_checkEndpoint h
      · exact Compression.error_of_check h
    · exact Compression.error_of_check h

theorem Exporter.error_of_install {process : Environment} {exporter : Exporter}
    {order : HeaderOrder} {error : SetupError} (h : exporter.install process order = .error error) :
    ∃ reason, error = .exporter reason := by
  cases exporter with
  | transport exporter => exact TransportExporter.error_of_install h
  | named name identity => cases h

end TelemetryAuth
