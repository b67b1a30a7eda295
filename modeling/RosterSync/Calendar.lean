/-!
The calendar's range.

Times are Unix milliseconds. The calendar holds the days of the proleptic Gregorian calendar, in
UTC, from -262143-01-02T00:00:00.000 to 262142-12-31T23:59:59.999. A time outside that range
names no date.
-/

namespace RosterSync.Calendar

/-- The earliest time the calendar holds, in Unix milliseconds. -/
def earliest : Int := -8334601228800000

/-- The latest time the calendar holds, in Unix milliseconds. -/
def latest : Int := 8210266876799999

def holds (t : Int) : Bool := earliest ≤ t && t ≤ latest

end RosterSync.Calendar
