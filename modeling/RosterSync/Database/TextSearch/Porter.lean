/-!
The Porter stemmer: English words reduced to their stems by Porter's five steps of suffix rules.

A word is read as runs of consonants and vowels, `y` a consonant at the start and after a vowel
and a vowel otherwise; its *measure* is the number of vowel runs followed by a consonant run. Each
rule of a step names a suffix and what replaces it when the stem before it has a large enough
measure; the first rule of a step whose suffix the word ends with decides that step, whether or
not its condition holds. Words of fewer than three letters are left as they are.
-/

namespace RosterSync.Database.TextSearch

/-- Whether a letter is one of the five vowels. -/
def isPlainVowel (c : Char) : Bool := c == 'a' || c == 'e' || c == 'i' || c == 'o' || c == 'u'

/-- For each letter of a word, whether it is a consonant: not a vowel, `y` counting as a
consonant at the start and after a vowel. -/
def consonantFlags (w : List Char) : List Bool :=
  (w.foldl (fun (acc : List Bool × Bool) c =>
    let flag := if isPlainVowel c then false else if c == 'y' then !acc.2 else true
    (flag :: acc.1, flag)) ([], false)).1.reverse

/-- The number of places where a vowel is followed by a consonant. -/
def vowelConsonantPairs : List Bool → Nat
  | false :: true :: rest => vowelConsonantPairs (true :: rest) + 1
  | _ :: rest => vowelConsonantPairs rest
  | [] => 0

/-- The measure of a word: how many vowel runs in it are followed by a consonant run. -/
def measure (w : List Char) : Nat := vowelConsonantPairs (consonantFlags w)

def hasVowel (w : List Char) : Bool := (consonantFlags w).any (· == false)

def endsDoubleConsonant (w : List Char) : Bool :=
  match w.reverse, (consonantFlags w).reverse with
  | a :: b :: _, true :: _ => a == b
  | _, _ => false

/-- Whether a word ends consonant, vowel, consonant, the last not `w`, `x` or `y`. -/
def endsShortSyllable (w : List Char) : Bool :=
  match w.reverse, (consonantFlags w).reverse with
  | c :: _, true :: false :: true :: _ => c != 'w' && c != 'x' && c != 'y'
  | _, _ => false

/-- A suffix rule: a word ending in `suffix` has it replaced by `replacement`. -/
structure SuffixRule where
  suffix : String
  replacement : String

/-- The stem a word has without a suffix, when it ends with it. -/
def stemBefore (w : List Char) (suffix : String) : Option (List Char) :=
  let s := suffix.toList
  if s.length ≤ w.length && s.isSuffixOf w then some (w.take (w.length - s.length)) else none

/-- Applies the first rule whose suffix a word ends with, when the stem before it passes the
condition; a word no rule fits is left as it is. -/
def applyFirst (cond : List Char → Bool) (w : List Char) : List SuffixRule → List Char
  | [] => w
  | r :: rest =>
    match stemBefore w r.suffix with
    | some stem => if cond stem then stem ++ r.replacement.toList else w
    | none => applyFirst cond w rest

/-- Step 1a: plurals. -/
def pluralRules : List SuffixRule :=
  [⟨"sses", "ss"⟩, ⟨"ies", "i"⟩, ⟨"ss", "ss"⟩, ⟨"s", ""⟩]

/-- Step 1b: past tenses and gerunds. A stem left by `ed` or `ing` is mended: `at`, `bl` and `iz`
take an `e`, a doubled consonant other than `l`, `s` or `z` loses one, and a short stem of measure
one takes an `e`. -/
def stripTense (w : List Char) : List Char :=
  match stemBefore w "eed" with
  | some stem => if measure stem > 0 then stem ++ ['e', 'e'] else w
  | none =>
    let stripped := match stemBefore w "ed" with
      | some stem => if hasVowel stem then some stem else none
      | none =>
        match stemBefore w "ing" with
        | some stem => if hasVowel stem then some stem else none
        | none => none
    match stripped with
    | none => w
    | some s =>
      match stemBefore s "at", stemBefore s "bl", stemBefore s "iz" with
      | some _, _, _ | _, some _, _ | _, _, some _ => s ++ ['e']
      | none, none, none =>
        let last := s.getLast?.getD ' '
        if endsDoubleConsonant s && last != 'l' && last != 's' && last != 'z' then s.dropLast
        else if measure s == 1 && endsShortSyllable s then s ++ ['e']
        else s

/-- Step 1c: a final `y` after a stem with a vowel becomes `i`. -/
def finalY (w : List Char) : List Char :=
  match stemBefore w "y" with
  | some stem => if hasVowel stem then stem ++ ['i'] else w
  | none => w

/-- Step 2: double suffixes reduced to single ones. -/
def doubleSuffixRules : List SuffixRule :=
  [⟨"ational", "ate"⟩, ⟨"tional", "tion"⟩, ⟨"enci", "ence"⟩, ⟨"anci", "ance"⟩, ⟨"izer", "ize"⟩,
   ⟨"bli", "ble"⟩, ⟨"alli", "al"⟩, ⟨"entli", "ent"⟩, ⟨"eli", "e"⟩, ⟨"ousli", "ous"⟩,
   ⟨"ization", "ize"⟩, ⟨"ation", "ate"⟩, ⟨"ator", "ate"⟩, ⟨"alism", "al"⟩, ⟨"iveness", "ive"⟩,
   ⟨"fulness", "ful"⟩, ⟨"ousness", "ous"⟩, ⟨"aliti", "al"⟩, ⟨"iviti", "ive"⟩, ⟨"biliti", "ble"⟩,
   ⟨"logi", "log"⟩]

/-- Step 3: further suffixes shortened or dropped. -/
def suffixRules : List SuffixRule :=
  [⟨"icate", "ic"⟩, ⟨"ative", ""⟩, ⟨"alize", "al"⟩, ⟨"iciti", "ic"⟩, ⟨"ical", "ic"⟩, ⟨"ful", ""⟩,
   ⟨"ness", ""⟩]

/-- Step 4: suffixes dropped from long stems; `ion` only after `s` or `t`. -/
def longStemRules : List SuffixRule :=
  [⟨"al", ""⟩, ⟨"ance", ""⟩, ⟨"ence", ""⟩, ⟨"er", ""⟩, ⟨"ic", ""⟩, ⟨"able", ""⟩, ⟨"ible", ""⟩,
   ⟨"ant", ""⟩, ⟨"ement", ""⟩, ⟨"ment", ""⟩, ⟨"ent", ""⟩, ⟨"ion", ""⟩, ⟨"ou", ""⟩, ⟨"ism", ""⟩,
   ⟨"ate", ""⟩, ⟨"iti", ""⟩, ⟨"ous", ""⟩, ⟨"ive", ""⟩, ⟨"ize", ""⟩]

/-- Whether a stem may lose a step 4 suffix: its measure is above one, and before `ion` it ends
with `s` or `t`. -/
def longStemFits (w stem : List Char) : Bool :=
  measure stem > 1 &&
    ((stemBefore w "ion").isNone || stem.getLast? == some 's' || stem.getLast? == some 't')

/-- Step 4 over a word. -/
def dropLongStemSuffix (w : List Char) : List Char :=
  match longStemRules.find? fun r => (stemBefore w r.suffix).isSome with
  | some r =>
    match stemBefore w r.suffix with
    | some stem => if longStemFits w stem then stem else w
    | none => w
  | none => w

/-- Step 5: a final `e` goes after a long stem or a stem of measure one not ending in a short
syllable, and a final `ll` becomes `l` in a long word. -/
def tidyEnding (w : List Char) : List Char :=
  let w := match stemBefore w "e" with
    | some stem =>
      let m := measure stem
      if m > 1 || (m == 1 && !endsShortSyllable stem) then stem else w
    | none => w
  if measure w > 1 && (stemBefore w "ll").isSome then w.dropLast else w

def porterStem (w : List Char) : List Char :=
  if w.length < 3 then w
  else
    let w := applyFirst (fun _ => true) w pluralRules
    let w := finalY (stripTense w)
    let w := applyFirst (fun s => measure s > 0) w doubleSuffixRules
    let w := applyFirst (fun s => measure s > 0) w suffixRules
    tidyEnding (dropLongStemSuffix w)

end RosterSync.Database.TextSearch
