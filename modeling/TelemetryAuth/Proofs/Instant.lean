import Mathlib.Order.Defs.LinearOrder
import TelemetryAuth.Instant

/-!
# The order of instants

Instants are compared by seconds and then by nanoseconds, which makes them a linear order.  A step
back by whole seconds takes exactly these seconds off the nanoseconds since 1970
(`nanos_of_minusSeconds?`) and leads to an earlier instant (`minusSeconds?_lt`), also from within a
leap second, which is left as if it were the next second.  A step of less than a minute fails only
in as many seconds at the beginning of the range (`minusSeconds?_eq_none_iff`).
-/

namespace TelemetryAuth.Instant

/-! ### A linear order -/

theorem eq_of_parts {a b : Instant} (hs : a.seconds = b.seconds)
    (hn : a.subsecond = b.subsecond) : a = b := by
  cases a
  cases b
  simp only at hs hn
  subst hs hn
  rfl

instance : LinearOrder Instant where
  toLE := inferInstance
  toLT := inferInstance
  le_refl a := by rw [le_iff]; omega
  le_trans a b c := by simp only [le_iff]; omega
  lt_iff_le_not_ge a b := by simp only [le_iff, lt_iff]; omega
  le_antisymm a b hab hba := by
    rw [le_iff] at hab hba
    exact eq_of_parts (by omega) (by omega)
  le_total a b := by simp only [le_iff]; omega
  toDecidableLE := inferInstance

/-! ### Steps back -/

/-- An instant made from nanoseconds has these nanoseconds and is in no leap second. -/
theorem nanos_of_ofNanos? {n : Int} {t : Instant} (h : ofNanos? n = some t) :
    t.nanos = n ∧ t.subsecond < nanosPerSecond := by
  unfold ofNanos? ofUnix? at h
  split_ifs at h
  obtain rfl := Option.some.inj h
  simp only [nanos, nanosPerSecond]
  omega

theorem nanos_of_minusSeconds? {t early : Instant} {s : Int} (hs : 0 < s)
    (h : t.minusSeconds? s = some early) :
    early.nanos = t.nanos - s * nanosPerSecond ∧ early.subsecond < nanosPerSecond := by
  have hs0 : -s ≠ 0 := by omega
  have hback : ¬ 0 < -s := by omega
  unfold minusSeconds? plusSeconds? at h
  rw [if_neg hback, if_neg hs0] at h
  obtain ⟨hn, hsub⟩ := nanos_of_ofNanos? h
  exact ⟨by rw [hn, Int.neg_mul, ← Int.sub_eq_add_neg], hsub⟩

/-- **A step back leads to an earlier instant.** -/
theorem minusSeconds?_lt {t early : Instant} {s : Int} (hs : 0 < s)
    (h : t.minusSeconds? s = some early) : early < t := by
  obtain ⟨hn, hsub⟩ := nanos_of_minusSeconds? hs h
  have ht : t.subsecond < 2 * nanosPerSecond := by
    have := t.subsecond_fits
    unfold FitsSecond at this
    omega
  -- A leap second of `t` adds at most one second, and the step back takes off at least one.
  simp only [nanos, nanosPerSecond] at hn hsub ht
  rw [lt_iff]
  omega

/-- A step back of less than a minute leaves the range from its first seconds only. -/
theorem minusSeconds?_eq_none_iff {t : Instant} {s : Int} (hs : 0 < s) (hminute : s < 60) :
    t.minusSeconds? s = none ↔ t.seconds < earliest.seconds + s := by
  have hs0 : -s ≠ 0 := by omega
  have hback : ¬ 0 < -s := by omega
  have hrange := t.seconds_inRange
  have hsub := t.subsecond_fits
  unfold InSecondRange at hrange
  unfold FitsSecond at hsub
  unfold minusSeconds? plusSeconds? ofNanos? ofUnix?
  rw [if_neg hback, if_neg hs0, dite_eq_right_iff]
  simp only [nanos, nanosPerSecond, earliest, reduceCtorEq, imp_false, not_and] at hsub ⊢
  -- The range begins with a minute, so a leap second is too far from there to matter.
  constructor
  · intro hout
    by_contra hle
    refine hout ?_ (.inl ?_)
    · unfold InSecondRange
      omega
    · simp only [nanosPerSecond]
      omega
  · intro hlt hin
    unfold InSecondRange at hin
    omega

end TelemetryAuth.Instant
