/-!
Waiting on the monotonic clock.

Waits are measured in milliseconds, and how long one lasts is the runtime timer's to say: `Timer`
stands for it. The runtime documents that its timer schedules nothing further than thirty years
of 365 days ahead, so a longer wait ends after thirty years and every other wait lasts exactly as
long as asked; `Timer.Capped` states that, and `Timer.runtime` is a timer that meets it.
-/

namespace RosterSync

/-- How long the runtime lets a wait asked for `ms` milliseconds last. -/
structure Timer where
  waited : Nat → Nat

namespace Timer

/-- Thirty years of 365 days, in milliseconds. -/
def horizonMs : Nat := 30 * 365 * 24 * 3600 * 1000

/-- The runtime's documented timer: a wait lasts as asked, cut to the thirty-year horizon. -/
structure Capped (t : Timer) : Prop where
  waited_eq : ∀ ms, t.waited ms = min ms horizonMs

def runtime : Timer := ⟨fun ms => min ms horizonMs⟩

theorem runtime_capped : runtime.Capped := ⟨fun _ => rfl⟩

end Timer

end RosterSync
