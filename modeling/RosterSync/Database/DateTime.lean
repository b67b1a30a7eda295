import RosterSync.Database.Printf

/-!
Dates and times.

A moment is a julian day number counted in milliseconds (`jd`), together with its calendar
fields (year, month, day) and clock fields (hour, minute, seconds with a fraction) when these are
known; each form is computed from the other on demand with the proleptic Gregorian calendar. A
moment is read from `YYYY-MM-DD`, `YYYY-MM-DD HH:MM[:SS[.FFF]]` (a `T` may stand for the blank,
and a zone `Z` or `±HH:MM` may follow), `HH:MM[:SS[.FFF]]` (on 2000-01-01), `now`, or a number
(a julian day, or under the `unixepoch` modifier seconds since 1970). Modifiers move it: `±N
days|hours|minutes|seconds|months|years`, `±HH:MM[:SS]`, `±YYYY-MM-DD [HH:MM]`, `start of
day|month|year`, `weekday N`, `ceiling`, `floor`, `auto`, `julianday`, `unixepoch`, `localtime`,
`utc` and `subsec`. Months and years that land on a missing day roll into the next month, or back
to the month's last day after `floor`. Anything outside years -4713 to 9999 has no value.

The clock of `now` is fixed at 2030-01-01 00:00:00 UTC, and the local time zone is UTC.
-/

namespace RosterSync.Database

structure DateTime where
  jd : Int
  year : Int
  month : Int
  day : Int
  hour : Int
  minute : Int
  tz : Int
  sec : Float
  validJD : Bool
  validYMD : Bool
  validHMS : Bool
  floorDays : Int
  rawS : Bool
  isError : Bool
  useSubsec : Bool
  isUtc : Bool
  isLocal : Bool

def DateTime.blank : DateTime :=
  { jd := 0, year := 0, month := 0, day := 0, hour := 0, minute := 0, tz := 0, sec := 0,
    validJD := false, validYMD := false, validHMS := false, floorDays := 0, rawS := false,
    isError := false, useSubsec := false, isUtc := false, isLocal := false }

def DateTime.failed : DateTime := { DateTime.blank with isError := true }

/-- The clock `now` reads: 2030-01-01 00:00:00 UTC as a julian day in milliseconds. -/
def nowJd : Int := 1893456000000 + 210866760000000

/-- A double truncated toward zero to a 64-bit integer. -/
def truncFloat (x : Float) : Int := (Binary64.ofFloat x).toI64

def intFloat (i : Int) : Float := (Binary64.ofInt i).toFloat

/-- The largest julian day in milliseconds with a value: 9999-12-31 23:59:59.999. -/
def maxJd : Int := 464269060799999

/-- Whether a julian day in milliseconds is in range. -/
def validJulianDay (jd : Int) : Bool := 0 ≤ jd && jd ≤ maxJd

/-- Reads exactly `width` digits whose value lies within bounds. -/
def digitsAt (cs : List Char) (width least most : Nat) : Option (Nat × List Char) :=
  let ds := cs.take width
  if ds.length = width && ds.all Char.isDigit then
    let v := digitsValue ds
    if least ≤ v && v ≤ most then some (v, cs.drop width) else none
  else none

/-- Reads a digit group followed by a given character, which is skipped. -/
def digitsThen (cs : List Char) (width least most : Nat) (sep : Char) : Option (Nat × List Char) :=
  match digitsAt cs width least most with
  | some (v, c :: rest) => if c = sep then some (v, rest) else none
  | _ => none

/-- Days to step back for `floor`: how far the day overruns its month. -/
def DateTime.withFloor (p : DateTime) : DateTime :=
  let leap := !(p.year % 4 != 0 || (p.year % 100 == 0 && p.year % 400 != 0))
  let f : Int :=
    if p.day ≤ 28 then 0
    else if [1, 3, 5, 7, 8, 10, 12].contains p.month then 0
    else if p.month != 2 then (if p.day == 31 then 1 else 0)
    else if !leap then p.day - 28
    else p.day - 29
  { p with floorDays := f }

/-- The julian day of the calendar and clock fields (2000-01-01 when there is no date). -/
def DateTime.computeJD (p : DateTime) : DateTime :=
  if p.validJD then p
  else
    let (y, m, d) := if p.validYMD then (p.year, p.month, p.day) else (2000, 1, 1)
    if y < -4713 || y > 9999 || p.rawS then DateTime.failed
    else
      let (y, m) := if m ≤ 2 then (y - 1, m + 12) else (y, m)
      let a := y.tdiv 100
      let b := 2 - a + a.tdiv 4
      let x1 := (36525 * (y + 4716)).tdiv 100
      let x2 := (306001 * (m + 1)).tdiv 10000
      let jd := truncFloat ((intFloat (x1 + x2 + d + b) - 1524.5) * 86400000.0)
      let p := { p with jd := jd, validJD := true }
      if p.validHMS then
        let jd := p.jd + p.hour * 3600000 + p.minute * 60000 + truncFloat (p.sec * 1000.0 + 0.5)
        if p.tz != 0 then
          { p with jd := jd - p.tz * 60000, validYMD := false, validHMS := false, tz := 0,
                   isUtc := true, isLocal := false }
        else { p with jd := jd }
      else p

def DateTime.computeYMD (p : DateTime) : DateTime :=
  if p.validYMD then p
  else if !p.validJD then { p with year := 2000, month := 1, day := 1, validYMD := true }
  else if !validJulianDay p.jd then DateTime.failed
  else
    let z := (p.jd + 43200000).tdiv 86400000
    let alpha := truncFloat ((intFloat z + 32044.75) / 36524.25) - 52
    let a := z + 1 + alpha - (alpha + 100).tdiv 4 + 25
    let b := a + 1524
    let c := truncFloat ((intFloat b - 122.1) / 365.25)
    let d := (36525 * (c % 32768)).tdiv 100
    let e := truncFloat (intFloat (b - d) / 30.6001)
    let x1 := truncFloat (30.6001 * intFloat e)
    let day := b - d - x1
    let month := if e < 14 then e - 1 else e - 13
    let year := if month > 2 then c - 4716 else c - 4715
    { p with day := day, month := month, year := year, validYMD := true }

def DateTime.computeHMS (p : DateTime) : DateTime :=
  if p.validHMS then p
  else
    let p := p.computeJD
    let dayMs := (p.jd + 43200000).tmod 86400000
    let sec := intFloat (dayMs.tmod 60000) / 1000.0
    let dayMin := dayMs.tdiv 60000
    { p with sec := sec, minute := dayMin.tmod 60, hour := dayMin.tdiv 60, rawS := false, validHMS := true }

def DateTime.computeYMDHMS (p : DateTime) : DateTime := p.computeYMD.computeHMS

/-- Forgets the calendar, clock and zone fields, keeping the julian day. -/
def DateTime.clearFields (p : DateTime) : DateTime :=
  { p with validYMD := false, validHMS := false, tz := 0 }

/-- A number read as a raw moment: a julian day when in range. -/
def DateTime.ofNumber (p : DateTime) (r : Float) : DateTime :=
  let p := { p with sec := r, rawS := true }
  if r ≥ 0.0 && r < 5373484.5 then { p with jd := truncFloat (r * 86400000.0 + 0.5), validJD := true }
  else p

/-- Reads a zone suffix: blanks, then nothing, `Z`, or `±HH:MM`, then blanks. -/
def parseTimezone (cs : List Char) (p : DateTime) : Option DateTime :=
  let cs := cs.dropWhile isSpaceChar
  let p := { p with tz := 0 }
  match cs with
  | [] => some p
  | c :: rest =>
    if c = 'Z' || c = 'z' then
      if (rest.dropWhile isSpaceChar).isEmpty then some { p with isLocal := false, isUtc := true } else none
    else if c = '+' || c = '-' then
      match digitsThen rest 2 0 14 ':' with
      | some (h, r1) =>
        match digitsAt r1 2 0 59 with
        | some (m, r2) =>
          if (r2.dropWhile isSpaceChar).isEmpty then
            some { p with tz := (if c = '-' then -1 else 1) * ((m : Int) + (h : Int) * 60) }
          else none
        | none => none
      | none => none
    else none

def parseHhMmSs (cs : List Char) (p : DateTime) : Option DateTime := do
  let (h, r1) ← digitsThen cs 2 0 24 ':'
  let (m, r2) ← digitsAt r1 2 0 59
  let (s, rest) ← match r2 with
    | ':' :: r3 => do
      let (s, r4) ← digitsAt r3 2 0 59
      match r4 with
      | '.' :: d :: r5 =>
        if d.isDigit then
          let frac := (d :: r5).takeWhile Char.isDigit
          let ms := frac.foldl (fun acc c => acc * 10.0 + intFloat (digitOf c)) 0.0
          let scale := frac.foldl (fun acc _ => acc * 10.0) 1.0
          let ms := ms / scale
          let ms := if ms > 0.999 then 0.999 else ms
          pure (intFloat s + ms, (d :: r5).drop frac.length)
        else pure (intFloat s, r4)
      | _ => pure (intFloat s, r4)
    | _ => pure (0.0, r2)
  let p := { p with validJD := false, rawS := false, validHMS := true, hour := h, minute := m, sec := s }
  parseTimezone rest p

def parseYyyyMmDd (cs : List Char) (p : DateTime) : Option DateTime := do
  let (neg, cs) := match cs with
    | '-' :: r => (true, r)
    | _ => (false, cs)
  let (y, r1) ← digitsThen cs 4 0 14712 '-'
  let (m, r2) ← digitsThen r1 2 1 12 '-'
  let (d, r3) ← digitsAt r2 2 1 31
  let r4 := r3.dropWhile fun c => isSpaceChar c || c = 'T'
  let p ← match parseHhMmSs r4 p with
    | some q => pure q
    | none => if r4.isEmpty then pure { p with validHMS := false } else none
  let p := { p with validJD := false, validYMD := true, year := if neg then -(y : Int) else y,
                    month := m, day := d }
  let p := p.withFloor
  pure (if p.tz != 0 then p.computeJD else p)

/-- Reads the first argument of a date function given as text. -/
def parseDateOrTime (s : String) (p : DateTime) : Option DateTime :=
  let cs := s.toList
  match parseYyyyMmDd cs p with
  | some q => some q
  | none =>
    match parseHhMmSs cs p with
    | some q => some q
    | none =>
      if s.toLower == "now" then some { p with jd := nowJd, validJD := true }
      else
        let (r, kind) := scanReal cs
        if kind > 0 then some (p.ofNumber r.toFloat)
        else if s.toLower == "subsec" || s.toLower == "subsecond" then
          some { p with jd := nowJd, validJD := true, useSubsec := true }
        else none

/-- Reads a raw number as a julian day or as seconds since 1970, by its size. -/
def DateTime.autoAdjust (p : DateTime) : DateTime :=
  if !p.rawS || p.validJD then { p with rawS := false }
  else if p.sec ≥ -210866760000.0 && p.sec ≤ 253402300799.0 then
    let r := p.sec * 1000.0 + 210866760000000.0
    { p.clearFields with jd := truncFloat (r + 0.5), validJD := true, rawS := false }
  else p

/-- The units of a `±N unit` modifier: name, limit and seconds per unit. -/
def timeUnits : List (String × Float × Float) :=
  [("second", 464269992787968.0, 1.0), ("minute", 7737900007424.0, 60.0),
   ("hour", 128969998336.0, 3600.0), ("day", 5373485.0, 86400.0),
   ("month", 176546.0, 2592000.0), ("year", 14713.0, 31536000.0)]

/-- Normalizes a month count into years and a month from 1 to 12. -/
def DateTime.carryMonths (p : DateTime) : DateTime :=
  let x := if p.month > 0 then (p.month - 1).tdiv 12 else (p.month - 12).tdiv 12
  { p with year := p.year + x, month := p.month - x * 12 }

def DateTime.addUnits (p : DateTime) (r : Float) (unitText : List Char) : Option DateTime :=
  let unitText := unitText.dropWhile isSpaceChar
  let n := unitText.length
  if n < 3 || n > 10 then none
  else
    let n := if (unitText.getLast?.map asciiLower) == some 's' then n - 1 else n
    let name := String.ofList ((unitText.take n).map asciiLower)
    let p := { p.computeJD with floorDays := 0 }
    let rounder := if r < 0.0 then -0.5 else 0.5
    match timeUnits.find? fun (u, limit, _) => u == name && r > -limit && r < limit with
    | none => none
    | some (u, _, perUnit) =>
      let whole := truncFloat r
      let (p, r) :=
        if u == "month" then
          let q := p.computeYMDHMS
          let q := { q with month := q.month + whole }.carryMonths.withFloor
          ({ q with validJD := false }, r - intFloat whole)
        else if u == "year" then
          let q := p.computeYMDHMS
          let q := { q with year := q.year + whole }.withFloor
          ({ q with validJD := false }, r - intFloat whole)
        else (p, r)
      let p := p.computeJD
      some { p with jd := p.jd + truncFloat (r * 1000.0 * perUnit + rounder) }.clearFields

def DateTime.addClock (p : DateTime) (negative : Bool) (cs : List Char) : Option DateTime := do
  let cs := match cs with
    | c :: rest => if c.isDigit then cs else rest
    | [] => []
  let tx ← parseHhMmSs cs DateTime.blank
  let tx := tx.computeJD
  let t := tx.jd - 43200000
  let t := t - t.tdiv 86400000 * 86400000
  let t := if negative then -t else t
  let p := p.computeJD.clearFields
  pure { p with jd := p.jd + t }

/-- Applies a modifier beginning with a sign or a digit. -/
def DateTime.numericModifier (p : DateTime) (z : List Char) : Option DateTime :=
  let z0 := z.headD ' '
  let rest := z.drop 1
  -- the end of the number: a colon, a blank, or the dash after a year
  let rec stop : Nat → List Char → Nat
    | i, [] => i
    | i, c :: more =>
      if c = ':' || isSpaceChar c then i
      else if c = '-' && ((i == 5 && (digitsAt (rest.take 4) 4 0 14712).isSome) ||
          (i == 6 && (digitsAt (rest.take 5) 5 0 14712).isSome)) then i
      else stop (i + 1) more
  let n := stop 1 rest
  let (r, kind) := scanReal (z.take n)
  if kind ≤ 0 then none
  else
    let r := r.toFloat
    let after := z.drop n
    let dated : Option (DateTime × List Char × Nat) :=
      match after with
      | '-' :: _ =>
        if z0 != '+' && z0 != '-' then none
        else
          let width := n - 1
          match digitsThen rest width 0 14712 '-' with
          | some (y, r1) =>
            match digitsThen r1 2 0 12 '-' with
            | some (m, r2) =>
              match digitsAt r2 2 0 31 with
              | some (d, r3) =>
                if m ≥ 12 || d ≥ 31 then none
                else
                  let q := p.computeYMDHMS
                  let q := { q with validJD := false }
                  let (q, dd) : DateTime × Int := if z0 = '-' then
                      ({ q with year := q.year - y, month := q.month - m }, -(d : Int))
                    else ({ q with year := q.year + y, month := q.month + m }, (d : Int))
                  let q := q.carryMonths.withFloor.computeJD
                  let q := { q with validHMS := false, validYMD := false, jd := q.jd + dd * 86400000 }
                  match r3 with
                  | [] => some (q, [], 0)
                  | c :: r4 =>
                    if isSpaceChar c && (digitsThen r4 2 0 24 ':').isSome then some (q, r4, 2) else none
              | none => none
            | none => none
          | none => none
      | _ => some (p, z, n)
    match dated with
    | none => none
    | some (q, z2, n2) =>
      if z2.isEmpty && n2 == 0 then some q
      else if z2[n2]? == some ':' then q.addClock (z0 = '-') z2
      else q.addUnits r (z2.drop n2)

/-- Applies one modifier; `idx` is its position among the arguments (from 1). -/
def DateTime.modify (p : DateTime) (text : String) (idx : Nat) : Option DateTime :=
  let low := text.toLower
  match text.toList with
  | [] => none
  | c :: _ =>
    match asciiLower c with
    | 'a' => if low == "auto" then (if idx > 1 then none else some p.autoAdjust) else none
    | 'c' => if low == "ceiling" then some { p.computeJD.clearFields with floorDays := 0 } else none
    | 'f' =>
      if low == "floor" then
        let q := p.computeJD
        some { q with jd := q.jd - q.floorDays * 86400000 }.clearFields
      else none
    | 'j' =>
      if low == "julianday" then
        if idx > 1 then none
        else if p.validJD && p.rawS then some { p with rawS := false } else none
      else none
    | 'l' =>
      if low == "localtime" then
        if p.isLocal then some { p with isUtc := false, isLocal := true }
        else
          let q := p.computeJD.computeYMDHMS
          let whole := truncFloat q.sec
          some { q with sec := intFloat whole + intFloat (q.jd.tmod 1000) * 0.001, validJD := false,
                        rawS := false, tz := 0, isError := false, isUtc := false, isLocal := true }
      else none
    | 'u' =>
      if low == "unixepoch" && p.rawS then
        if idx > 1 then none
        else
          let r := p.sec * 1000.0 + 210866760000000.0
          if r ≥ 0.0 && r < 464269060800000.0 then
            some { p.clearFields with jd := truncFloat (r + 0.5), validJD := true, rawS := false }
          else none
      else if low == "utc" then
        if p.isUtc then some p
        else
          let q := p.computeJD
          some { DateTime.blank with jd := q.jd, validJD := true, isUtc := true }
      else none
    | 'w' =>
      if low.startsWith "weekday " then
        let (r, kind) := scanReal (text.toList.drop 8)
        let rf := r.toFloat
        let n := truncFloat rf
        if kind > 0 && rf ≥ 0.0 && rf < 7.0 && intFloat n == rf then
          let q := p.computeYMDHMS
          let q := { q with tz := 0, validJD := false }.computeJD
          let z := ((q.jd + 129600000).tdiv 86400000).tmod 7
          let z := if z > n then z - 7 else z
          some { q with jd := q.jd + (n - z) * 86400000 }.clearFields
        else none
      else none
    | 's' =>
      if !low.startsWith "start of " then
        if low == "subsec" || low == "subsecond" then some { p with useSubsec := true } else none
      else if !p.validJD && !p.validYMD && !p.validHMS then none
      else
        let q := p.computeYMD
        let q := { q with validHMS := true, hour := 0, minute := 0, sec := 0.0, rawS := false, tz := 0,
                          validJD := false }
        match low.drop 9 |>.toString with
        | "month" => some { q with day := 1 }
        | "year" => some { q with month := 1, day := 1 }
        | "day" => some q
        | _ => none
    | c =>
      if c = '+' || c = '-' || c.isDigit then p.numericModifier text.toList else none

/-- The moment of a date function's arguments, or nothing when they do not make one. -/
def dateOfArgs (args : List Datum) : Option DateTime :=
  match args with
  | [] => some { DateTime.blank with jd := nowJd, validJD := true }
  | first :: mods => do
    let p ← match first with
      | .integer _ | .real _ => some (DateTime.blank.ofNumber first.realValue.toFloat)
      | .null => none
      | d => parseDateOrTime ((d.text?).getD "") DateTime.blank
    let p ← ((List.range mods.length).zip mods).foldlM (fun (p : DateTime) (i, m) =>
      match m.text? with
      | some t => p.modify t (i + 1)
      | none => none) p
    let p := p.computeJD
    if p.isError || !validJulianDay p.jd then none
    else if mods.isEmpty && p.validYMD && p.day > 28 then some { p with validYMD := false }
    else some p

/-- A number written in at least `width` characters, its sign among them, zero-padded. -/
def padNumber (width : Nat) (n : Int) : String :=
  let ds := (toString n.natAbs).toList
  let sign := if n < 0 then "-" else ""
  sign ++ String.ofList (List.replicate (width - sign.length - ds.length) '0' ++ ds)

def blankNumber (width : Nat) (n : Int) : String :=
  let s := toString n
  String.ofList (List.replicate (width - s.length) ' ') ++ s

/-- The date part `YYYY-MM-DD` (a minus before negative years). -/
def DateTime.dateText (p : DateTime) : String :=
  (if p.year < 0 then "-" else "") ++ padNumber 4 p.year.natAbs ++ "-" ++ padNumber 2 p.month ++ "-" ++
    padNumber 2 p.day

def DateTime.timeText (p : DateTime) : String :=
  let secs := if p.useSubsec then
      let s := truncFloat (1000.0 * p.sec + 0.5)
      padNumber 2 (s.tdiv 1000 % 100) ++ "." ++ padNumber 3 (s % 1000)
    else padNumber 2 (truncFloat p.sec % 100)
  padNumber 2 p.hour ++ ":" ++ padNumber 2 p.minute ++ ":" ++ secs

/-- Seconds since 1970 of a julian day in milliseconds. -/
def unixSeconds (jd : Int) : Int := jd.tdiv 1000 - 210866760000

/-- Days since January 1st of the moment's year. -/
def DateTime.daysAfterJan01 (p : DateTime) : Int :=
  let jan := { p with validJD := false, month := 1, day := 1 }.computeJD
  (p.jd - jan.jd + 43200000).tdiv 86400000

def DateTime.daysAfterMonday (p : DateTime) : Int := ((p.jd + 43200000).tdiv 86400000).tmod 7

def DateTime.daysAfterSunday (p : DateTime) : Int := ((p.jd + 129600000).tdiv 86400000).tmod 7

def floatIn (cv : Conversion) (x : Float) : String :=
  cv.floatFormat.render (Binary64.ofFloat x)

/-- The Thursday of the moment's week, for ISO week numbers. -/
def DateTime.isoThursday (p : DateTime) : DateTime :=
  { p with jd := p.jd + (3 - p.daysAfterMonday) * 86400000, validYMD := false }.computeYMD

/-- The text `strftime` writes for one conversion character, or nothing for an unknown one. -/
def DateTime.strftimeField (x : DateTime) (cf : Char) : Option String :=
  match cf with
  | 'd' => some (padNumber 2 x.day)
  | 'e' => some (blankNumber 2 x.day)
  | 'f' =>
    let s := if x.sec > 59.999 then 59.999 else x.sec
    some (floatIn { Conversion.blank with kind := 'f', zeroPad := true, width := 6, precision := some 3 } s)
  | 'F' => some (padNumber 4 x.year ++ "-" ++ padNumber 2 x.month ++ "-" ++ padNumber 2 x.day)
  | 'G' => some (padNumber 4 x.isoThursday.year)
  | 'g' => some (padNumber 2 (x.isoThursday.year.tmod 100))
  | 'H' => some (padNumber 2 x.hour)
  | 'k' => some (blankNumber 2 x.hour)
  | 'I' | 'l' =>
    let h := if x.hour > 12 then x.hour - 12 else x.hour
    let h := if h == 0 then 12 else h
    some (if cf = 'I' then padNumber 2 h else blankNumber 2 h)
  | 'j' => some (padNumber 3 (x.daysAfterJan01 + 1))
  | 'J' => some (floatIn { Conversion.blank with kind := 'g', precision := some 16 } (intFloat x.jd / 86400000.0))
  | 'm' => some (padNumber 2 x.month)
  | 'M' => some (padNumber 2 x.minute)
  | 'p' => some (if x.hour ≥ 12 then "PM" else "AM")
  | 'P' => some (if x.hour ≥ 12 then "pm" else "am")
  | 'R' => some (padNumber 2 x.hour ++ ":" ++ padNumber 2 x.minute)
  | 's' =>
    if x.useSubsec then
      some (floatIn { Conversion.blank with kind := 'f', precision := some 3 }
        (intFloat (x.jd - 210866760000000) / 1000.0))
    else some (toString (unixSeconds x.jd))
  | 'S' => some (padNumber 2 (truncFloat x.sec))
  | 'T' => some (padNumber 2 x.hour ++ ":" ++ padNumber 2 x.minute ++ ":" ++ padNumber 2 (truncFloat x.sec))
  | 'u' => some (let d := x.daysAfterSunday; toString (if d == 0 then 7 else d))
  | 'w' => some (toString x.daysAfterSunday)
  | 'U' => some (padNumber 2 ((x.daysAfterJan01 - x.daysAfterSunday + 7).tdiv 7))
  | 'V' => some (padNumber 2 (x.isoThursday.daysAfterJan01.tdiv 7 + 1))
  | 'W' => some (padNumber 2 ((x.daysAfterJan01 - x.daysAfterMonday + 7).tdiv 7))
  | 'Y' => some (padNumber 4 x.year)
  | '%' => some "%"
  | _ => none

/-- The text of a `strftime` format for a moment; nothing when it has an unknown conversion or
ends in a lone `%`. -/
def DateTime.strftime (x : DateTime) (fmt : List Char) : Option String :=
  let rec go : List Char → List Char → Option (List Char)
    | [], acc => some acc.reverse
    | '%' :: c :: rest, acc =>
      match x.strftimeField c with
      | some s => go rest (s.toList.reverse ++ acc)
      | none => none
    | ['%'], _ => none
    | c :: rest, acc => go rest (c :: acc)
  (go fmt []).map String.ofList

/-- The text of `timediff(a, b)`: the calendar difference from `b` to `a`. -/
def timeDifference (d1 d2 : DateTime) : String :=
  let d1 := d1.computeYMDHMS
  let d2 := d2.computeYMDHMS
  let offset : Int := 1486995408 * 100000
  let rec backward : Nat → DateTime → Int → Int → DateTime × Int × Int
    | 0, d2, y, m => (d2, y, m)
    | fuel + 1, d2, y, m =>
      if d1.jd < d2.jd then
        let (m, y) := if m - 1 < 0 then (11, y - 1) else (m - 1, y)
        let (mm, yy) := if d2.month - 1 < 1 then (12, d2.year - 1) else (d2.month - 1, d2.year)
        backward fuel { d2 with month := mm, year := yy, validJD := false }.computeJD y m
      else (d2, y, m)
  let rec forward : Nat → DateTime → Int → Int → DateTime × Int × Int
    | 0, d2, y, m => (d2, y, m)
    | fuel + 1, d2, y, m =>
      if d1.jd > d2.jd then
        let (m, y) := if m - 1 < 0 then (11, y - 1) else (m - 1, y)
        let (mm, yy) := if d2.month + 1 > 12 then (1, d2.year + 1) else (d2.month + 1, d2.year)
        forward fuel { d2 with month := mm, year := yy, validJD := false }.computeJD y m
      else (d2, y, m)
  let (sign, y, m, span) :=
    if d1.jd ≥ d2.jd then
      let y := d1.year - d2.year
      let d2 := if y != 0 then { d2 with year := d1.year, validJD := false }.computeJD else d2
      let m := d1.month - d2.month
      let (y, m) := if m < 0 then (y - 1, m + 12) else (y, m)
      let d2 := if m != 0 then { d2 with month := d1.month, validJD := false }.computeJD else d2
      let (d2, y, m) := backward 30 d2 y m
      ('+', y, m, d1.jd - d2.jd + offset)
    else
      let y := d2.year - d1.year
      let d2 := if y != 0 then { d2 with year := d1.year, validJD := false }.computeJD else d2
      let m := d2.month - d1.month
      let (y, m) := if m < 0 then (y - 1, m + 12) else (y, m)
      let d2 := if m != 0 then { d2 with month := d1.month, validJD := false }.computeJD else d2
      let (d2, y, m) := forward 30 d2 y m
      ('-', y, m, d2.jd - d1.jd + offset)
  let r := { DateTime.blank with jd := span, validJD := true }.computeYMDHMS
  String.ofList [sign] ++ padNumber 4 y ++ "-" ++ padNumber 2 m ++ "-" ++ padNumber 2 (r.day - 1) ++ " " ++
    padNumber 2 r.hour ++ ":" ++ padNumber 2 r.minute ++ ":" ++
    floatIn { Conversion.blank with kind := 'f', zeroPad := true, width := 6, precision := some 3 } r.sec

/-- A date or time function applied to evaluated arguments; `none` for a name it does not know. -/
def dateFunction (name : String) (args : List Datum) : Option Datum :=
  let withDate (f : DateTime → Datum) : Datum := match dateOfArgs args with
    | some p => f p
    | none => .null
  match name with
  | "date" => some (withDate fun p => .text p.computeYMD.dateText)
  | "time" => some (withDate fun p => .text p.computeHMS.timeText)
  | "datetime" => some (withDate fun p =>
      let q := p.computeYMDHMS
      .text (q.dateText ++ " " ++ q.timeText))
  | "julianday" => some (withDate fun p => .real (Binary64.ofFloat (intFloat p.jd / 86400000.0)))
  | "unixepoch" => some (withDate fun p =>
      if p.useSubsec then .real (Binary64.ofFloat (intFloat (p.jd - 210866760000000) / 1000.0))
      else .integer (unixSeconds p.jd))
  | "strftime" =>
    match args with
    | [] => some .null
    | fmt :: rest =>
      match fmt.text?, dateOfArgs rest with
      | some f, some p =>
        match (p.computeJD.computeYMDHMS).strftime f.toList with
        | some s => some (.text s)
        | none => some .null
      | _, _ => some .null
  | "timediff" =>
    match args with
    | [a, b] =>
      match dateOfArgs [a], dateOfArgs [b] with
      | some x, some y => some (.text (timeDifference x y))
      | _, _ => some .null
    | _ => none
  | _ => none

end RosterSync.Database
