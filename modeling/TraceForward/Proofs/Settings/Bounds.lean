/-
The bounds of the settings.

Settings are in force only if they keep their bounds: a host is not created
under others, and a change to others is turned down.
-/

import TraceForward.Settings.Live

namespace TraceForward

namespace Settings

structure Bounded (settings : Settings) : Prop where
  pollPeriod : Limits.minPollPeriodMs ≤ settings.pollPeriodMs ∧
    settings.pollPeriodMs ≤ Limits.maxPollPeriodMs
  mtu : Limits.minMtu ≤ settings.mtu
  stopTimeout : Limits.minStopTimeoutMs ≤ settings.stopTimeoutMs
  queueFullPump : 0 < settings.queueFullPumpMs
  registryBuckets : isPowerOfTwo settings.registryBuckets = true

theorem violation?_eq_none_iff (settings : Settings) :
    settings.violation? = none ↔ settings.Bounded := by
  constructor
  · intro unviolated
    unfold violation? at unviolated
    split at unviolated
    · cases unviolated
    · split at unviolated
      · cases unviolated
      · split at unviolated
        · cases unviolated
        · split at unviolated
          · cases unviolated
          · split at unviolated
            · cases unviolated
            next period mtu timeout pump buckets =>
              refine ⟨by omega, by omega, by omega, by omega, ?_⟩
              simpa using buckets
  · intro bounded
    obtain ⟨period, mtu, timeout, pump, buckets⟩ := bounded
    unfold violation?
    rw [if_neg (by omega), if_neg (by omega), if_neg (by omega), if_neg (by omega),
      if_neg (by simp [buckets])]

theorem validate_eq_ok_iff (settings : Settings) :
    settings.validate = .ok () ↔ settings.Bounded := by
  rw [← violation?_eq_none_iff]
  unfold validate
  cases settings.violation? <;> simp

theorem pos_of_isPowerOfTwo {value : Nat} (power : isPowerOfTwo value = true) :
    0 < value := by
  rw [Nat.pos_iff_ne_zero]
  intro none
  rw [none] at power
  cases power

end Settings

theorem LiveSettings.update_valid {live next : LiveSettings} {change : Settings → Settings}
    (updated : live.update change = .ok next) : next.current.validate = .ok () := by
  unfold update at updated
  dsimp only at updated
  split at updated
  next valid =>
    cases updated
    exact valid
  next => cases updated

end TraceForward
