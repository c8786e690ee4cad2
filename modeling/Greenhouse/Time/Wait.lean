/-!
# Waiting

Whoever waits for some time waits until a moment.  A moment too far ahead cannot be waited for:
every wait ends after thirty years at the latest.  Times are in milliseconds.
-/

namespace Greenhouse

/-- No wait is longer than thirty years. -/
def longestWait : Nat := 946080000000

/-- How long a wait for some time lasts. -/
def waitLength (duration : Nat) : Nat := min duration longestWait

end Greenhouse
