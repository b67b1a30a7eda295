import RosterSync.Database.Datum

/-!
The `printf` (also `format`) function.

The formatter works on bytes: the format and each text argument are read as their UTF-8 bytes
up to the first NUL, and the result is the bytes written, so that a precision may cut a
character in two. Here each byte is held as the character of its code.

Text outside conversions is copied. A conversion is `%`, flags (`-` left-justify, `+` or blank
sign prefix, `#` alternate form, `!` alternate form two, `0` zero padding, `,` thousands), an
optional width (`*` takes it from the arguments, a negative one left-justifies), an optional
precision (`.` with digits or `*`), optional `l` or `ll` (ignored) and a conversion character.
A width or precision taken from the arguments is the argument's integer cut to 32 bits.
Integers (`d i u x X o p r`) take the integer of the next argument, doubles (`f e E g G`) its
double, texts (`s z q Q w c`) its text; a missing argument counts as `0`, `0.0` or `NULL`. `%n`
writes nothing and `%%` a percent sign, padded like any other field. An unknown or unfinished
conversion ends the output there.

Widths and text precisions count bytes; under `!` they count characters, a lead byte with the
continuation bytes after it being one. The result is `NULL` when nothing at all was written,
and when it, or the room a conversion sets aside, would reach a billion bytes.
-/

-- natural powers take the core instance even where the monoid power is in scope
attribute [local instance (2000)] instPowNat

namespace RosterSync.Database

structure Conversion where
  leftJustify : Bool
  signPrefix : Option Char
  alternate : Bool
  alternate2 : Bool
  zeroPad : Bool
  thousands : Bool
  width : Nat
  precision : Option Nat
  kind : Char

def Conversion.blank : Conversion :=
  { leftJustify := false, signPrefix := none, alternate := false, alternate2 := false,
    zeroPad := false, thousands := false, width := 0, precision := none, kind := ' ' }

/-- The number of bytes a result, or the room set aside for one conversion, must stay below. -/
def formatLimit : Nat := 1000000000

/-- The characters of a text up to its first NUL. -/
def untilNul (cs : List Char) : List Char := cs.takeWhile (· ≠ Char.ofNat 0)

/-- The bytes of a text up to its first NUL, each as the character of its code. -/
def byteChars (s : String) : List Char := untilNul (bytesChars (textBytes s))

/-- Whether a byte continues a UTF-8 sequence. -/
def isContinuationByte (c : Char) : Bool := c.toNat / 64 == 2

/-- The bytes of the first `n` characters of UTF-8 bytes: a byte from `0xC0` up takes the
continuation bytes after it along, any other byte is a character by itself. -/
def takeCharsOfBytes : Nat → List Char → List Char
  | 0, _ => []
  | _, [] => []
  | n + 1, c :: cs =>
    if c.toNat ≥ 0xC0 then
      let tail := cs.takeWhile isContinuationByte
      c :: tail ++ takeCharsOfBytes n (cs.drop tail.length)
    else c :: takeCharsOfBytes n cs

/-- The width bytes take up: all of them, or under `!` those that continue no character. -/
def shownWidth (byChars : Bool) (cs : List Char) : Nat :=
  if byChars then (cs.filter fun c => !isContinuationByte c).length else cs.length

/-- The first bytes of a text that a precision keeps: that many bytes, or under `!` that many
characters; all of it without a precision. -/
def keepPrecision (cv : Conversion) (cs : List Char) : List Char :=
  match cv.precision with
  | some p => if cv.alternate2 then takeCharsOfBytes p cs else cs.take p
  | none => cs

def nextArg (args : List Datum) : Option Datum × List Datum :=
  match args with
  | a :: rest => (some a, rest)
  | [] => (none, [])

/-- The integer of an argument, `0` when it is missing. -/
def intArg (arg : Option Datum) : Int := (arg.map Datum.intValue).getD 0

/-- An integer cut to its low 32 bits, read as a signed number. -/
def toInt32 (v : Int) : Int :=
  let u := v % 2 ^ (32 : Nat)
  if u ≥ 2 ^ (31 : Nat) then u - 2 ^ (32 : Nat) else u

/-- The digits of a natural number in a base, with a digit set. -/
def radixDigits (base : Nat) (upper : Bool) (n : Nat) : List Char :=
  let set := if upper then "0123456789ABCDEF".toList else "0123456789abcdef".toList
  if base < 2 then ['0'] else
  let rec go : Nat → Nat → List Char → List Char
    | 0, _, acc => acc
    | fuel + 1, m, acc =>
      let acc := set.getD (m % base) '0' :: acc
      if m / base = 0 then acc else go fuel (m / base) acc
  go 70 n []

/-- Inserts a separator before each group of three digits from the right. -/
def groupThousands (ds : List Char) : List Char :=
  let rec go : List Char → Nat → List Char → List Char
    | [], _, acc => acc
    | c :: rest, k, acc =>
      if k > 0 && k % 3 == 0 then go rest (k + 1) (c :: ',' :: acc) else go rest (k + 1) (c :: acc)
  go ds.reverse 0 []

def ordinalSuffix (n : Nat) : List Char :=
  let x := n % 10
  let x := if x ≥ 4 || (n / 10) % 10 == 1 then 0 else x
  match x with
  | 1 => ['s', 't']
  | 2 => ['n', 'd']
  | 3 => ['r', 'd']
  | _ => ['t', 'h']

/-- The text of an integer conversion; `none` when the room it sets aside for the digits (the
precision, which zero padding raises to the width, and ten more) reaches the limit. Signed
conversions (`d i r`) write a sign, the others the value's 64-bit two's complement; `x` and `p`
write hexadecimal (`p` in capitals, like `X`), `o` octal, `r` an ordinal. The precision counts
an ordinal's suffix; `#` puts `0x`, `0X` or `0` before a value that is not zero. -/
def integerText (cv : Conversion) (arg : Option Datum) : Option (List Char) :=
  let v := intArg arg
  let signed := cv.kind == 'd' || cv.kind == 'i' || cv.kind == 'r'
  let (mag, pfx) : Nat × Option Char :=
    if signed then (if v < 0 then (v.natAbs, some '-') else (v.toNat, cv.signPrefix))
    else ((if v < 0 then v + 2 ^ (64 : Nat) else v).toNat, none)
  let alternate := cv.alternate && mag != 0
  let base :=
    if cv.kind == 'x' || cv.kind == 'X' || cv.kind == 'p' then 16
    else if cv.kind == 'o' then 8 else 10
  let thousands := cv.thousands && (cv.kind == 'd' || cv.kind == 'i' || cv.kind == 'u')
  let precision : Nat := cv.precision.getD 0
  let prefixLen := if pfx.isSome then 1 else 0
  let precision :=
    if cv.zeroPad && precision < cv.width - prefixLen then cv.width - prefixLen else precision
  if precision + 10 + (if thousands then precision / 3 else 0) > formatLimit then none else
  let ds := radixDigits base (cv.kind == 'X' || cv.kind == 'p') mag
  let ds := if cv.kind == 'r' then ds ++ ordinalSuffix mag else ds
  let ds := List.replicate (precision - ds.length) '0' ++ ds
  let ds := if thousands then groupThousands ds else ds
  let ds := match pfx with
    | some c => c :: ds
    | none => ds
  some (if alternate then
    match cv.kind with
    | 'x' | 'p' => '0' :: 'x' :: ds
    | 'X' => '0' :: 'X' :: ds
    | 'o' => '0' :: ds
    | _ => ds
  else ds)

/-- The bytes of a text argument, `none` for `NULL` or a missing argument. -/
def textArg (arg : Option Datum) : Option (List Char) :=
  arg.bind fun d => d.text?.map byteChars

/-- The text of a quoting conversion (`q`, `Q`, `w`): the kept bytes with each quote (`'`, or
`"` for `w`) doubled, and for `Q` the whole in quotes. `NULL` is `(NULL)`, or `NULL` without
quotes for `Q`. -/
def escapedText (cv : Conversion) (arg : Option Datum) : List Char :=
  let q := if cv.kind == 'w' then '"' else '\''
  let raw := textArg arg
  let s := raw.getD (if cv.kind == 'Q' then "NULL".toList else "(NULL)".toList)
  let body := (keepPrecision cv s).foldr (fun c acc => if c = q then c :: c :: acc else c :: acc) []
  if raw.isSome && cv.kind == 'Q' then q :: body ++ [q] else body

/-- The bytes of the first character of a text argument: its first byte, NUL for an empty text
or `NULL`, and after a byte from `0xC0` up at most three continuation bytes. -/
def firstCharBytes (arg : Option Datum) : List Char :=
  match textArg arg with
  | some (c :: cs) => if c.toNat ≥ 0xC0 then c :: (cs.takeWhile isContinuationByte).take 3 else [c]
  | _ => [Char.ofNat 0]

def Conversion.floatFormat (cv : Conversion) : FloatFormat :=
  { conversion := cv.kind, precision := cv.precision, signPrefix := cv.signPrefix,
    alternate := cv.alternate, alternate2 := cv.alternate2, zeroPad := cv.zeroPad,
    leftJustify := cv.leftJustify, thousands := cv.thousands, width := cv.width }

/-- Sets the width from an argument: a negative one left-justifies by its size (the least
one by nothing). -/
def Conversion.withWidthArg (cv : Conversion) (w : Int) : Conversion :=
  if w < 0 then { cv with leftJustify := true, width := if w ≥ -2147483647 then w.natAbs else 0 }
  else { cv with width := w.toNat }

/-- Sets the precision from an argument: a negative one counts by its size (the least one
as no precision). -/
def Conversion.withPrecisionArg (cv : Conversion) (p : Int) : Conversion :=
  if p < 0 then { cv with precision := if p ≥ -2147483647 then some p.natAbs else none }
  else { cv with precision := some p.toNat }

/-- Reads what follows the `%` of a conversion up to its conversion character: flags in any
order, then a width, then a precision, then `l` or `ll`. A width or precision ends the reading
unless a precision or `l` follows it. Gives the conversion character (`none` when the format
ends first), the rest of the format, the conversion and the arguments left. -/
def readConversion : Nat → List Char → Conversion → List Datum →
    Option Char × List Char × Conversion × List Datum
  | 0, rest, cv, args => (none, rest, cv, args)
  | _, [], cv, args => (none, [], cv, args)
  | fuel + 1, c :: rest, cv, args =>
    -- after a width or precision: a precision or `l` goes on, anything else is the character
    let afterField (more : List Char) (cv : Conversion) (args : List Datum) :=
      match more with
      | k :: more' =>
        if k = '.' || k = 'l' then readConversion fuel more cv args else (some k, more', cv, args)
      | [] => (none, [], cv, args)
    match c with
    | '-' => readConversion fuel rest { cv with leftJustify := true } args
    | '+' => readConversion fuel rest { cv with signPrefix := some '+' } args
    | ' ' => readConversion fuel rest { cv with signPrefix := some ' ' } args
    | '#' => readConversion fuel rest { cv with alternate := true } args
    | '!' => readConversion fuel rest { cv with alternate2 := true } args
    | '0' => readConversion fuel rest { cv with zeroPad := true } args
    | ',' => readConversion fuel rest { cv with thousands := true } args
    | 'l' =>
      match rest with
      | 'l' :: k :: more => (some k, more, cv, args)
      | 'l' :: [] => (none, [], cv, args)
      | k :: more => (some k, more, cv, args)
      | [] => (none, [], cv, args)
    | '*' =>
      let (a, args) := nextArg args
      afterField rest (cv.withWidthArg (toInt32 (intArg a))) args
    | '.' =>
      match rest with
      | '*' :: more =>
        let (a, args) := nextArg args
        let cv := cv.withPrecisionArg (toInt32 (intArg a))
        match more with
        | 'l' :: _ => readConversion fuel more cv args
        | k :: more' => (some k, more', cv, args)
        | [] => (none, [], cv, args)
      | _ =>
        let ds := rest.takeWhile Char.isDigit
        let cv := { cv with precision := some (digitsValue ds % 2 ^ (31 : Nat)) }
        match rest.drop ds.length with
        | 'l' :: more => readConversion fuel ('l' :: more) cv args
        | k :: more' => (some k, more', cv, args)
        | [] => (none, [], cv, args)
    | _ =>
      if '1' ≤ c && c ≤ '9' then
        let ds := (c :: rest).takeWhile Char.isDigit
        afterField (rest.drop (ds.length - 1)) { cv with width := digitsValue ds % 2 ^ (31 : Nat) } args
      else (some c, rest, cv, args)

/-- What one conversion does: ends the output, makes the result too long, or writes a field
(a body with blanks to the width before or after it), having taken some arguments. -/
inductive FieldStep where
  | halt
  | overflow
  | write (pad : Nat) (body : List Char) (rest : List Datum)

/-- Writes a body padded to the width, its width counted in bytes or characters. -/
def FieldStep.padded (cv : Conversion) (byChars : Bool) (body : List Char) (rest : List Datum) :
    FieldStep :=
  .write (cv.width - shownWidth byChars body) body rest

/-- The field a conversion writes, with the arguments it leaves. -/
def conversionField (cv : Conversion) (args : List Datum) : FieldStep :=
  let k := cv.kind
  if k == '%' then .padded cv false ['%'] args
  else if k == 'n' then .write 0 [] args
  else if "diuxXopr".toList.contains k then
    let (a, args) := nextArg args
    match integerText cv a with
    | some body => .padded cv false body args
    | none => .overflow
  else if "feEgG".toList.contains k then
    let (a, args) := nextArg args
    let x := (a.map Datum.realValue).getD (Binary64.zero false)
    if cv.floatFormat.scratchSize x > formatLimit then .overflow
    else .padded cv false (cv.floatFormat.render x).toList args
  else if k == 's' || k == 'z' then
    let (a, args) := nextArg args
    .padded cv cv.alternate2 (keepPrecision cv ((textArg a).getD [])) args
  else if k == 'q' || k == 'Q' || k == 'w' then
    let (a, args) := nextArg args
    .padded cv cv.alternate2 (escapedText cv a) args
  else if k == 'c' then
    let (a, args) := nextArg args
    let one := firstCharBytes a
    let copies := max (cv.precision.getD 1) 1
    if copies * one.length ≥ formatLimit then .overflow
    else .write (cv.width - copies) ((List.replicate copies one).flatten) args
  else .halt

/-- Output under way: the bytes written, last first, their number, and whether anything was
written at all (an empty field counts). -/
structure Output where
  bytes : List Char
  size : Nat
  started : Bool

/-- Writes `pad` blanks and a body, the blanks after it when left-justified; `none` when the
output would reach the limit. -/
def Output.field (o : Output) (pad : Nat) (left : Bool) (body : List Char) : Option Output :=
  let size := o.size + pad + body.length
  if size ≥ formatLimit then none
  else
    let blanks := List.replicate pad ' '
    let piece := if left then body ++ blanks else blanks ++ body
    some { bytes := piece.reverse ++ o.bytes, size, started := true }

/-- Formats with arguments; `none` when the result grows too long. Each step consumes at least
one byte of the format. A `%` at the very end is written as it is. -/
def formatBytes : Nat → List Char → List Datum → Output → Option Output
  | 0, _, _, o => some o
  | _, [], _, o => some o
  | fuel + 1, c :: rest, args, o =>
    if c ≠ '%' then (o.field 0 false [c]).bind fun o => formatBytes fuel rest args o
    else if rest.isEmpty then o.field 0 false ['%']
    else
      match readConversion rest.length rest Conversion.blank args with
      | (none, _, _, _) => some o
      | (some k, rest, cv, args) =>
        let cv := { cv with kind := k }
        match conversionField cv args with
        | .halt => some o
        | .overflow => none
        | .write pad body args =>
          (o.field pad cv.leftJustify body).bind fun o => formatBytes fuel rest args o

/-- The result of `printf(format, args…)`: `NULL` for a `NULL` format, when nothing was written,
or when the result grows too long. -/
def printfValue (format : Datum) (args : List Datum) : Datum :=
  match format.text? with
  | none => .null
  | some f =>
    let cs := byteChars f
    match formatBytes (cs.length + 1) cs args { bytes := [], size := 0, started := false } with
    | some o =>
      if o.started then .text (bytesText (o.bytes.reverse.map fun c => UInt8.ofNat c.toNat))
      else .null
    | none => .null

end RosterSync.Database
