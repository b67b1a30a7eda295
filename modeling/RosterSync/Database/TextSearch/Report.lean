import RosterSync.Database.TextSearch.Occurrences
import RosterSync.Database.TextSearch.Tokenizer

/-!
What an older index reports about a row its search found: the offsets of the words it matched,
statistics of the match, and a snippet of the row's text.

* The offsets list, column by column, each occurrence of a word of a counted phrase in the order
  of its place (of two at one place, the word counted first): the column, the word's number among
  the search's words, and the byte offset and byte length of the word in the column's text.
* The statistics are 32-bit words, little end first, chosen letter by letter: `p` the number of
  counted phrases, `c` of columns, `n` of rows, `a` each column's mean number of words (rounded
  to nearest), `l` the row's words in each column, `s` each column's longest run of phrases that
  stand one after another in their order, `x` for each phrase and column the occurrences in the
  row, in all rows and the rows holding one, `y` for each phrase and column the occurrences in
  the row that the walk reaches, and `b` for each phrase a bit per column holding one. `n` and
  `a` need the fourth version and `l` the recorded sizes.
* A snippet looks for a window of at most 64 words holding every phrase of the row, then for two
  windows together holding them, and so on up to four, each window taken in the column where it
  scores best (1000 for a phrase no window before holds, 1 for another occurrence). A window is
  moved on to centre its marked words when text follows, and joined to the next by an ellipsis.
-/

-- sums of naturals start from the core zero even where the algebraic one is in scope
attribute [local instance (2000)] Zero.ofOfNat0

namespace RosterSync.Database.TextSearch

/-- The `w` bytes of a number, the least significant first. -/
def littleEndian : Nat → Nat → List UInt8
  | 0, _ => []
  | w + 1, n => (n % 256).toUInt8 :: littleEndian w (n / 256)

/-- The byte offset in a text of each character place, up to the end. -/
def byteOffsets (cs : List Char) : List Nat :=
  (cs.foldl (fun (acc : List Nat × Nat) c => (acc.2 :: acc.1, acc.2 + c.utf8Size)) ([], 0)) |>
    fun (out, total) => (total :: out).reverse

/-- The words of each counted phrase, numbered across the search, with the phrase they belong to
and how far each stands before the phrase's last word. -/
def countedWords (s : Search) : List (Nat × Nat) :=
  s.counted.zipIdx.flatMap fun (p, i) =>
    (List.range p.words.length).map fun j => (i, p.words.length - 1 - j)

/-- The offsets of a row's matched words: for each column holding text (with its words), the
occurrences of counted words by place, then by word number. -/
def offsetsText (s : Search) (places : List (List (Nat × Nat)))
    (columns : List (Option (String × List Word))) : Option String :=
  let words := countedWords s
  let parts := columns.zipIdx.flatMap fun (col, c) =>
    match col with
    | none => []
    | some (text, ws) =>
      let bytes := byteOffsets text.toList
      let hits := (words.zipIdx.flatMap fun ((i, back), t) =>
        (((places[i]?).getD []).filter (·.1 == c)).map fun (_, p) => (p - back, t)).mergeSort
          fun a b => a.1 < b.1 || (a.1 == b.1 && a.2 ≤ b.2)
      hits.filterMap fun (p, t) =>
        (ws[p]?).map fun w =>
          let start := bytes.getD w.start 0
          toString c ++ " " ++ toString t ++ " " ++ toString start ++ " " ++
            toString (bytes.getD w.stop 0 - start)
  if parts.isEmpty then none else some (" ".intercalate parts)

/-- The longest run, in one state of the readers, of live readers standing at one value one
after another, and the reader to move on: the first of those at the lowest value. -/
def lcsScan (readers : List (List Int)) : Nat × Option Nat :=
  let step (acc : Nat × Nat × Option Int × Option (Nat × Int)) (r : List Int × Nat) :=
    let (best, run, prev, adv) := acc
    match r.1 with
    | [] => (best, 0, none, adv)
    | v :: _ =>
      let adv := match adv with
        | some (_, a) => if v < a then some (r.2, v) else adv
        | none => some (r.2, v)
      let run := if run == 0 || prev == some v then run + 1 else 1
      (max best run, run, some v, adv)
  let (best, _, _, adv) := readers.zipIdx.foldl step (0, 0, none, none)
  (best, adv.map (·.1))

/-- The longest run of phrases standing one after another in their order, reading the readers'
values until all run out. -/
def lcsLength : Nat → List (List Int) → Nat → Nat
  | 0, _, best => best
  | fuel + 1, readers, best =>
    match lcsScan readers with
    | (_, none) => best
    | (run, some k) => lcsLength fuel (readers.modify k List.tail) (max best run)

/-- The facts of an older index that its statistics read: whether it is of the fourth version,
whether it records each row's sizes, and its number of columns. -/
structure IndexFacts where
  fourth : Bool
  sizes : Bool
  columns : Nat

/-- The statistics of a row under a format, or the error for a letter the index cannot give.
`places` are the counted phrases' places in the row and `reached` which of them the walk to the
row reaches. -/
def matchStatistics (facts : IndexFacts) (s : Search) (totals : Totals) (doc : Document)
    (places : List (List (Nat × Nat))) (reached : List Bool) (format : String) :
    Except String (List UInt8) := do
  let cols := facts.columns
  let phrases := s.counted
  let known (c : Char) : Bool :=
    c == 'p' || c == 'c' || (c == 'n' && facts.fourth) || (c == 'a' && facts.fourth) ||
      (c == 'l' && facts.sizes) || c == 's' || c == 'x' || c == 'y' || c == 'b'
  match format.toList.find? (!known ·) with
  | some c => throw ("unrecognized matchinfo request: " ++ c.toString)
  | none => pure ()
  let inColumn (i c : Nat) : Nat := (((places[i]?).getD []).filter (·.1 == c)).length
  let lcs (c : Nat) : Nat :=
    let offsets := (phrases.zipIdx.map fun (_, i) =>
      ((phrases.take (i + 1)).map (·.words.length)).sum)
    let readers := (List.range phrases.length).map fun i =>
      (((places[i]?).getD []).filter (·.1 == c)).map fun (_, p) => (p : Int) - offsets.getD i 0
    lcsLength ((readers.map List.length).sum + 1) readers 0
  let words (c : Char) : List Nat :=
    match c with
    | 'p' => [phrases.length]
    | 'c' => [cols]
    | 'n' => [totals.rows]
    | 'a' => (List.range cols).map fun c =>
      (totals.columnWords.getD c 0 % 4294967296 + totals.rows / 2) / totals.rows
    | 'l' => (List.range cols).map fun c => ((doc[c]?).map List.length).getD 0
    | 's' => (List.range cols).map lcs
    | 'x' => (List.range phrases.length).flatMap fun i =>
      (List.range cols).flatMap fun c =>
        let (all, rows) := ((totals.phraseHits[i]?).bind (·[c]?)).getD (0, 0)
        [inColumn i c, all, rows]
    | 'y' => (List.range phrases.length).flatMap fun i =>
      (List.range cols).map fun c => if reached.getD i false then inColumn i c else 0
    | _ => (List.range phrases.length).flatMap fun i =>
      (List.range ((cols + 31) / 32)).map fun k =>
        -- The bit of column `c` goes into word `(c + 1) / 32`.
        ((List.range cols).filter fun c =>
          reached.getD i false && inColumn i c > 0 && (c + 1) / 32 == k).foldl
            (fun acc c => acc ||| (1 <<< (c % 32))) 0
  pure ((format.toList.flatMap words).flatMap fun n => littleEndian 4 (n % 4294967296))

/-- A window of a snippet: its column, its first word (before the column starts when it reaches
back), the phrases it holds as bits, and the words it marks as bits from its first word. -/
structure Window where
  column : Nat
  first : Int
  covered : Nat
  marked : Nat
deriving Inhabited

/-- The score and marks of the window of `size` words from `first`, given each phrase's places
(last words) in the column from the reader's position on, its number of words, and the phrases
earlier windows hold. -/
def windowDetails (size : Nat) (first : Int) (covered : Nat)
    (readers : List (List Int × Nat)) : Nat × Nat × Nat :=
  readers.zipIdx.foldl (fun (acc : Nat × Nat × Nat) ((r, len), i) =>
    let bit := 1 <<< (i % 64)
    let inside := r.takeWhile fun p => p < first + size && p ≥ first
    inside.foldl (fun (score, cover, marks) p =>
      let score := if (cover ||| covered) &&& bit != 0 then score + 1 else score + 1000
      let place := 1 <<< (p - first).toNat
      let marks := (List.range (min len size)).foldl (fun m j => m ||| (place >>> j)) marks
      (score, cover ||| bit, marks)) acc) (0, 0, 0)

/-- The candidate windows of a column in order, each with its score: the first from word 0,
then one ending at each next place of a phrase not yet passed. `heads` are each phrase's places
not yet passed, `tails` those from the window's start on. -/
def windowCandidates (size : Nat) (covered : Nat) (lens : List Nat) :
    Nat → List (List Int) → List (List Int) → List (Int × Nat × Nat × Nat)
  | 0, _, _ => []
  | fuel + 1, heads, tails =>
    match (heads.filterMap List.head?).min? with
    | none => []
    | some last =>
      let first := last - size + 1
      let heads := heads.map (·.dropWhile (· < last + 1))
      let tails := tails.map (·.dropWhile (· < first))
      let (score, cover, marks) := windowDetails size first covered (tails.zip lens)
      (first, score, cover, marks) :: windowCandidates size covered lens fuel heads tails

/-- The best window of `size` words in a column, with its score and the phrases found there at
all: the first candidate of the highest score. -/
def bestWindow (size : Nat) (covered : Nat) (column : Nat) (lens : List Nat)
    (places : List (List Int)) : Window × Nat × Nat :=
  let seen := places.zipIdx.foldl (fun acc (ps, i) =>
    if ps.isEmpty then acc else acc ||| (1 <<< (i % 64))) 0
  let (score0, cover0, marks0) := windowDetails size 0 covered (places.zip lens)
  let heads := places.map (·.dropWhile (· < (size : Int)))
  let rest := windowCandidates size covered lens ((places.map List.length).sum + 1) heads places
  let best := rest.foldl (fun (best : Window × Nat) (first, score, cover, marks) =>
    if score > best.2 then ({ column := column, first := first, covered := cover, marked := marks }, score)
    else best)
    ({ column := column, first := 0, covered := cover0, marked := marks0 }, score0)
  (best.1, best.2, seen)

/-- A window moved on by up to half the difference between the unmarked words before its first
mark and after its last, as far as `remaining` words (from its first word on) allow. -/
def Window.centred (w : Window) (size remaining : Nat) : Window :=
  if w.marked == 0 then w
  else
    let left := ((List.range 64).find? fun k => w.marked &&& (1 <<< k) != 0).getD 0
    let right := ((List.range 64).find? fun k => k < size && w.marked &&& (1 <<< (size - 1 - k)) != 0).getD 0
    let desired : Int := ((left : Int) - right).tdiv 2
    if desired ≤ 0 then w
    else
      let shift : Int := if (remaining : Int) > size + desired then desired else (remaining : Int) - size
      if shift > 0 then { w with first := w.first + shift, marked := w.marked >>> shift.toNat } else w

/-- The state of writing a window's text: the text so far, the place copied up to, whether the
window was centred, the window, and whether its end was passed. -/
structure WindowWriting where
  out : String
  copied : Nat
  centred : Bool
  window : Window
  done : Bool

/-- The text of the `index`-th window of a snippet from a column's text and words: an ellipsis
before it unless it is the first and starts the column (whose leading text is then kept), its
words with the marked ones between `opening` and `closing`, and after it an ellipsis when it is
the last and words follow, or the rest of the text when the column ends within it. -/
def windowText (text : String) (words : List Word) (w : Window) (index : Nat) (isLast : Bool)
    (size : Nat) (opening closing ellipsis : String) : String :=
  let cs := text.toList
  let slice (a b : Nat) : String := String.ofList ((cs.drop a).take (b - a))
  let step (st : WindowWriting) (wi : Word × Nat) : WindowWriting :=
    let (word, i) := wi
    if st.done || (i : Int) < st.window.first then st
    else
      let st := if st.centred then st
        else
          let win := st.window.centred size (words.length - i)
          let lead := if win.first > 0 || index > 0 then ellipsis
            else if word.start > 0 then slice 0 word.start else ""
          { st with out := st.out ++ lead, centred := true, window := win }
      let first := st.window.first
      if (i : Int) < first then st
      else if (i : Int) ≥ first + size then
        { st with out := st.out ++ (if isLast then ellipsis else ""), done := true }
      else
        let marked := st.window.marked &&& (1 <<< ((i : Int) - first).toNat) != 0
        let gap := if (i : Int) > first then slice st.copied word.start else ""
        let body := slice word.start word.stop
        let body := if marked then opening ++ body ++ closing else body
        { st with out := st.out ++ gap ++ body, copied := word.stop }
  let st := words.zipIdx.foldl step
    { out := "", copied := 0, centred := false, window := w, done := false }
  if st.done then st.out else st.out ++ String.ofList (cs.drop st.copied)

/-- A snippet of a row: `places` are the counted phrases' places in the row, `columns` the row's
column texts with their words, `column` the one column to take windows from (any when negative),
and `tokens` the number of words (at most 64 either way; a negative number is the size of every
window rather than of all together). Nothing when every window falls in a column without text. -/
def olderSnippet (s : Search) (places : List (List (Nat × Nat)))
    (columns : List (Option (String × List Word))) (opening closing ellipsis : String)
    (column tokens : Int) : Option String :=
  let lens := s.counted.map (·.words.length)
  let tokens := max (-64) (min 64 tokens)
  let colPlaces (c : Nat) : List (List Int) := (List.range lens.length).map fun i =>
    (((places[i]?).getD []).filter (·.1 == c)).map fun (_, p) => (p : Int)
  let attempt (n : Nat) : List Window × Nat × Bool :=
    let size : Nat := if tokens ≥ 0 then ((tokens + n - 1) / n).toNat else (-tokens).toNat
    let (wins, covered, seen) := (List.range n).foldl (fun (acc : List Window × Nat × Nat) _ =>
      let (wins, covered, seen) := acc
      let (best, _, seen) := (List.range columns.length).foldl
        (fun (acc : Window × Int × Nat) (c : Nat) =>
          let (best, bestScore, seen) := acc
          if column ≥ 0 && column != (c : Int) then acc
          else
            let (win, score, found) := bestWindow size covered c lens (colPlaces c)
            if (score : Int) > bestScore then (win, score, seen ||| found)
            else (best, bestScore, seen ||| found))
        ({ column := 0, first := 0, covered := 0, marked := 0 }, -1, seen)
      (wins ++ [best], covered ||| best.covered, seen)) ([], 0, 0)
    (wins, size, seen == covered)
  let tries := [1, 2, 3, 4].map attempt
  let (wins, size, _) := (tries.find? (·.2.2)).getD (tries.getLastD ([], 0, true))
  let texts := wins.zipIdx.filterMap fun (win, i) =>
    match columns[win.column]? with
    | some (some (text, words)) =>
      some (windowText text words win i (i + 1 == wins.length) size opening closing ellipsis)
    | _ => none
  if texts.isEmpty then none else some (String.join texts)

end RosterSync.Database.TextSearch
