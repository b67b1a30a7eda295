import RosterSync.Database.TextSearch.Letters
import RosterSync.Database.TextSearch.Porter

/-!
Cutting text into the words a text index holds.

A tokenizer reads a text as a list of characters and gives its words in order, each with the
places of its first character and of the character after its last, so that a word's number in
the list is its position. Four ways of cutting are offered:

* `simple` takes runs of ASCII letters and digits and of characters beyond ASCII, and folds
  ASCII capitals;
* `ascii` does the same with extra token characters and separators of one's choice;
* `unicode61` takes runs of Unicode letters and digits (a combining mark continues a word), folds
  case, and removes diacritics at level 1 or 2;
* `trigram` takes every run of three characters, spaces and punctuation included.

`porter` reduces the words of another tokenizer to their Porter stems: the newer index stems
words of 3 to 64 characters; the older one stems words of 3 to 20 letters and copies any other
word, shortening a long one to its first and last ten characters (three when it holds a digit).
-/

namespace RosterSync.Database.TextSearch

inductive Tokenizer where
  /-- Runs of ASCII letters and digits and of characters beyond ASCII; `_` also joins words when
  `underscores` is set. -/
  | simple (underscores : Bool)
  /-- Runs of ASCII letters and digits and of characters beyond ASCII, with extra token
  characters and separators. -/
  | ascii (tokenChars separators : List Char)
  /-- Runs of Unicode letters and digits, case folded, diacritics removed at the given level,
  with extra token characters and separators. -/
  | unicode61 (removeDiacritics : Nat) (tokenChars separators : List Char)
  /-- Every run of three characters, case folded unless `caseSensitive`. -/
  | trigram (caseSensitive : Bool) (removeDiacritics : Bool)
  /-- The words of another tokenizer reduced to their stems; `older` picks the older index's
  rules for which words are stemmed. -/
  | porter (base : Tokenizer) (older : Bool)
deriving Repr, Inhabited, BEq

/-- A word of a text: its folded form and the places of its first character and of the
character after its last. -/
structure Word where
  term : String
  start : Nat
  stop : Nat
deriving Repr, Inhabited, BEq

/-- The spans `(start, stop)` of the runs of a character list: a run starts at a character that
`opens` and goes on over characters that `continues`. -/
def runSpans (opens continues : Char → Bool) (cs : List Char) : List (Nat × Nat) :=
  let step (acc : List (Nat × Nat) × Option Nat × Nat) (c : Char) :
      List (Nat × Nat) × Option Nat × Nat :=
    match acc with
    | (out, some s, i) =>
      if continues c then (out, some s, i + 1)
      else if opens c then ((s, i) :: out, some i, i + 1)
      else ((s, i) :: out, none, i + 1)
    | (out, none, i) => if opens c then (out, some i, i + 1) else (out, none, i + 1)
  match cs.foldl step ([], none, 0) with
  | (out, some s, n) => ((s, n) :: out).reverse
  | (out, none, _) => out.reverse

/-- The characters of a list from one place up to another. -/
def slice (cs : List Char) (start stop : Nat) : List Char := (cs.drop start).take (stop - start)

def asciiFold (c : Char) : Char := if 'A' ≤ c && c ≤ 'Z' then Char.ofNat (c.toNat + 32) else c

/-- The words of runs cut by `opens` and `continues`, each folded character by character (a
character folding to nothing is dropped). -/
def runWords (opens continues : Char → Bool) (fold : Char → Option Char) (cs : List Char) :
    List Word :=
  (runSpans opens continues cs).map fun (s, e) =>
    { term := String.ofList ((slice cs s e).filterMap fold), start := s, stop := e }

/-- How `unicode61` folds one character of a word: case folded, then, when diacritics are
removed, a combining mark dropped and a letter stripped of its diacritic. -/
def unicodeFold (level : Nat) (c : Char) : Option Char :=
  if level > 0 && isCombiningMark c then none
  else
    let f := foldCase c
    some (if level > 0 then stripDiacritic f else f)

/-- Every run of three characters of a text, folded unless case counts. -/
def trigramWords (caseSensitive removeDiacritics : Bool) (cs : List Char) : List Word :=
  let folded := cs.zipIdx.filterMap fun (c, i) =>
    if caseSensitive then some (c, i)
    else (unicodeFold (if removeDiacritics then 1 else 0) c).map fun f => (f, i)
  let places := folded.map (·.2)
  (List.range (folded.length - 2)).map fun k =>
    let chars := ((folded.drop k).take 3).map (·.1)
    let stop := (places[k + 3]?).getD cs.length
    { term := String.ofList chars, start := places.getD k 0, stop := stop }

/-- How the older index copies a word it does not stem: ASCII capitals folded, and a word of
more than twenty characters (six when it holds a digit) cut to its first and last ten (three). -/
def copyStem (w : List Char) : List Char :=
  let w := w.map asciiFold
  let keep := if w.any Char.isDigit then 3 else 10
  if w.length > 2 * keep then w.take keep ++ w.drop (w.length - keep) else w

def stemWord (older : Bool) (w : String) : String :=
  let cs := w.toList
  if older then
    if cs.length < 3 || cs.length ≥ 21 || cs.any (fun c => !(c.isLower || c.isUpper)) then
      String.ofList (copyStem cs)
    else String.ofList (porterStem (cs.map asciiFold))
  else if w.utf8ByteSize < 3 || w.utf8ByteSize > 64 then w
  else String.ofList (porterStem cs)

def Tokenizer.words : Tokenizer → String → List Word
  | .simple underscores, s =>
    let isToken (c : Char) : Bool := c.toNat ≥ 0x80 || c.isAlphanum || (underscores && c == '_')
    runWords isToken isToken (fun c => some (asciiFold c)) s.toList
  | .ascii extra seps, s =>
    let isToken (c : Char) : Bool :=
      c.toNat ≥ 0x80 || ((c.isAlphanum || extra.contains c) && !seps.contains c)
    runWords isToken isToken (fun c => some (asciiFold c)) s.toList
  | .unicode61 level extra seps, s =>
    let isToken (c : Char) : Bool := (isWordChar c || extra.contains c) && !seps.contains c
    runWords isToken (fun c => isToken c || isCombiningMark c) (unicodeFold level) s.toList
  | .trigram caseSensitive strip, s => trigramWords caseSensitive strip s.toList
  | .porter base older, s =>
    (base.words s).map fun w => { w with term := stemWord older w.term }

end RosterSync.Database.TextSearch
