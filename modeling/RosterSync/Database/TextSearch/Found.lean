import RosterSync.Database.TextSearch.Occurrences

/-!
What a full-text search finds in a row: the occurrences of its phrases, the row's rank, and the
row's text with the occurrences marked.

The phrases of a search are numbered in the order they are written. A row reports the places
where a phrase stands (for a phrase of a window, only the places the window keeps) when the
phrase and every part of the search above it match the row: both sides of an `AND`, the sides of
an `OR` that match, the left side of a `NOT`. The occurrences are listed by column, then place,
then phrase.

The rank is Okapi BM25 with `k1 = 1.2` and `b = 0.75`, negated so that a better row ranks lower:
for each phrase, its inverse document frequency `log ((N - n + 0.5) / (n + 0.5))` (at least
`1e-6`) times `f * (k1 + 1) / (f + k1 * (1 - b + b * D / avgdl))`, where `N` is the number of
rows, `n` the number of rows the phrase alone matches, `f` the phrase's weighted occurrences in
the row, `D` the row's number of words and `avgdl` the mean number of words of a row.

Highlighting copies a column's text, opening and closing a mark around each run of overlapping
occurrences. A snippet highlights the window of a given number of words that holds the most
different phrases (then the most occurrences), moved to be centred on them or to start at a
sentence, with an ellipsis where text is left out.
-/

-- sums of naturals start from the core zero even where the algebraic one is in scope
attribute [local instance (2000)] Zero.ofOfNat0

namespace RosterSync.Database.TextSearch

/-- The phrases of a search in the order they are written. -/
def Search.phrases : Search → List Phrase
  | .phrase p => [p]
  | .window ps _ => ps
  | .chain head links => head :: links.map (·.2)
  | .both a b | .either a b | .without a b => a.phrases ++ b.phrases
  | .nothing => []

/-- An occurrence of a phrase in a row: the phrase's number, the column, and the place of its
first word. -/
structure Instance where
  phrase : Nat
  column : Nat
  place : Nat
deriving Repr, BEq, Inhabited

/-- The place of a word as the index orders places: by column, then by place in the column. -/
def placeKey (column place : Nat) : Int := (column : Int) * 4294967296 + place

/-- One pass of a window over its phrases' readers (the places each has left, in order): a reader
below the window moves up to it, one above it widens the window. The new top of the window, the
readers, and whether all stood in the window already; `none` when a reader runs out. -/
def windowPass (gap : Nat) (top : Int) (readers : List (Nat × List Int)) :
    Option (Int × List (Nat × List Int) × Bool) :=
  readers.foldl (fun acc (len, r) =>
    match acc with
    | none => none
    | some (top, done, inWindow) =>
      match r with
      | [] => none
      | p :: _ =>
        let low := top - len - gap
        if p < low || p > top then
          match r.dropWhile (· < low) with
          | [] => none
          | q :: rest => some (max top q, done ++ [(len, q :: rest)], false)
        else some (top, done ++ [(len, r)], inWindow)) (some (top, [], true))

/-- Moves a window's readers until they all stand in one window; its readers then, or `none`
when a reader runs out first. -/
def windowSettle (gap : Nat) : Nat → Int → List (Nat × List Int) → Option (List (Nat × List Int))
  | 0, _, _ => none
  | fuel + 1, top, readers =>
    match windowPass gap top readers with
    | none => none
    | some (_, rs, true) => some rs
    | some (top, rs, false) => windowSettle gap fuel top rs

/-- The places of a window's phrases that stand in some window: the readers settle, the places
they stand on are kept, and the reader whose next place is lowest moves on, until one runs out. -/
def windowWalk (gap : Nat) : Nat → List (Nat × List Int) → List (List Int) → List (List Int)
  | 0, _, kept => kept
  | fuel + 1, readers, kept =>
    let top := (readers.head?.bind (·.2.head?)).getD 0
    match windowSettle gap (4 * readers.length + 2 * (readers.map (·.2.length)).sum + 4) top readers with
    | none => kept
    | some rs =>
      let kept := (kept.zip rs).map fun (k, (_, r)) =>
        match r.head? with
        | some p => if k.getLast? == some p then k else k ++ [p]
        | none => k
      let ahead := rs.map fun (_, r) => r.tail.head?
      let (adv, _) := ahead.zipIdx.foldl (fun (best : Nat × Option Int) (a, i) =>
        match a, best.2 with
        | some x, some y => if x < y then (i, some x) else best
        | some x, none => (i, some x)
        | none, _ => best) (0, ahead.headD none)
      match rs[adv]? with
      | some (_, _ :: []) | some (_, []) => kept
      | some (len, _ :: more) => windowWalk gap fuel (rs.set adv (len, more)) kept
      | none => kept

/-- The places (as `placeKey`s) of each phrase of a window that the window keeps in a row. -/
def windowKept (phrases : List Phrase) (gap : Nat) (doc : Document) : List (List Int) :=
  let readers := phrases.map fun p =>
    (p.words.length, (p.starts doc).map fun (c, s) => placeKey c s)
  windowWalk gap (2 * (readers.map (·.2.length)).sum + 2) readers (phrases.map fun _ => [])

/-- The occurrences a search reports for a row, phrase by phrase, numbering phrases from `k`. -/
def Search.reported (doc : Document) : Search → Nat → List Instance
  | .phrase p, k => (p.starts doc).map fun (c, s) => { phrase := k, column := c, place := s }
  | .window ps gap, k =>
    if ps.length ≤ 1 then
      ps.zipIdx.flatMap fun (p, i) =>
        (p.starts doc).map fun (c, s) => { phrase := k + i, column := c, place := s }
    else if !windowHolds ps gap doc then []
    else
      (windowKept ps gap doc).zipIdx.flatMap fun (keys, i) =>
        keys.map fun key =>
          { phrase := k + i, column := (key / 4294967296).toNat, place := (key % 4294967296).toNat }
  | .chain head links, k =>
    (head :: links.map (·.2)).zipIdx.flatMap fun (p, i) =>
      (p.starts doc).map fun (c, s) => { phrase := k + i, column := c, place := s }
  | .both a b, k =>
    if a.holds doc && b.holds doc then a.reported doc k ++ b.reported doc (k + a.phrases.length)
    else []
  | .either a b, k => a.reported doc k ++ b.reported doc (k + a.phrases.length)
  | .without a b, k => if a.holds doc && !b.holds doc then a.reported doc k else []
  | .nothing, _ => []

/-- The occurrences of a search's phrases in a row, by column, place and phrase. -/
def Search.instances (s : Search) (doc : Document) : List Instance :=
  (s.reported doc 0).mergeSort fun a b =>
    placeKey a.column a.place < placeKey b.column b.place ||
      (placeKey a.column a.place == placeKey b.column b.place && a.phrase ≤ b.phrase)

/-- What a search found across an index, which ranking a row needs: the search, the number of
rows and of words in the index, the number of rows each phrase alone matches, and the totals the
older index's statistics read. -/
structure Found where
  search : Search
  rows : Nat
  words : Nat
  hits : List Nat
  totals : Totals
deriving Repr, Inhabited

/-- The findings of a search over the documents of an index's rows, of the given number of
columns. -/
def Found.ofDocuments (s : Search) (columns : Nat) (docs : List Document) : Found :=
  { search := s, rows := docs.length,
    words := (docs.map fun d => (d.map List.length).sum).sum,
    hits := s.phrases.map fun p => (docs.filter fun d => !(p.starts d).isEmpty).length,
    totals := Totals.ofDocuments s columns docs }

/-- The findings of no search: no phrase, so every row ranks `-0.0` and nothing is marked. -/
def Found.empty : Found :=
  { search := .nothing, rows := 0, words := 0, hits := [],
    totals := { rows := 0, columnWords := [], phraseHits := [] } }

/-- A row's BM25 rank under a search, each column's occurrences weighted (1 where no weight is
given). -/
def Found.rank (fd : Found) (weights : List Float) (doc : Document) : Float :=
  let k1 : Float := 1.2
  let b : Float := 0.75
  let n := fd.search.phrases.length
  let freq := (fd.search.instances doc).foldl (fun (acc : List Float) i =>
    acc.modify i.phrase (· + weights.getD i.column 1.0)) (List.replicate n 0.0)
  let size := Float.ofNat (doc.map List.length).sum
  let avgdl := Float.ofNat fd.words / Float.ofNat fd.rows
  let score := (freq.zip fd.hits).foldl (fun (acc : Float) (f, hit) =>
    let idf := Float.log ((Float.ofNat fd.rows - Float.ofNat hit + 0.5) / (Float.ofNat hit + 0.5))
    let idf := if idf ≤ 0.0 then 1e-6 else idf
    acc + idf * ((f * (k1 + 1.0)) / (f + k1 * (1.0 - b + b * size / avgdl)))) 0.0
  (-1.0) * score

/-- Runs of overlapping occurrences in a column: each `(first, last)` word place. -/
def markRuns (fd : Found) (doc : Document) (column : Nat) : List (Nat × Nat) :=
  let phrases := fd.search.phrases
  let spans := ((fd.search.instances doc).filter (·.column == column)).map fun i =>
    (i.place, i.place + ((phrases[i.phrase]?.map (·.words.length)).getD 1) - 1)
  (spans.foldl (fun (acc : List (Nat × Nat)) (s, e) =>
    match acc with
    | (s0, e0) :: rest => if s ≤ e0 then (s0, max e0 e) :: rest else (s, e) :: acc
    | [] => [(s, e)]) []).reverse

/-- How a column's text is marked: the mark that opens and the one that closes a run, and the
words of the text as the index cuts them. -/
structure Marking where
  opening : String
  closing : String
  words : List Word

/-- The state of marking a text word by word: the text copied so far, the place copied up to,
whether a mark is open, and the runs still to mark. -/
structure MarkState where
  out : String
  copied : Nat
  isOpen : Bool
  runs : List (Nat × Nat)

/-- Marks a text's words from `first` to `last` (all of them when `last` is `none`), copying the
text between them and opening and closing marks around the runs. -/
def Marking.step (m : Marking) (text : List Char) (first : Nat) (last : Option Nat)
    (st : MarkState) (iw : Word × Nat) : MarkState :=
  let (w, i) := iw
  let slice (a b : Nat) : String := String.ofList ((text.drop a).take (b - a))
  let inRange := match last with
    | some l => first ≤ i && i ≤ l
    | none => true
  if !inRange then st else
  let st := if last.isSome && first > 0 && i == first then { st with copied := w.start } else st
  let runStart := (st.runs.head?.map (·.1))
  let runEnd := (st.runs.head?.map (·.2))
  -- A mark left open closes before a word that is not part of the current run.
  let st := if st.isOpen && (runStart.all (i ≤ ·)) && w.start > st.copied then
      { st with out := st.out ++ m.closing, isOpen := false }
    else st
  let st := if runStart == some i && !st.isOpen then
      { st with out := st.out ++ slice st.copied w.start ++ m.opening, copied := w.start, isOpen := true }
    else st
  let st := if runEnd == some i then
      let st := if !st.isOpen then { st with out := st.out ++ m.opening, isOpen := true } else st
      { st with out := st.out ++ slice st.copied w.stop, copied := w.stop, runs := st.runs.drop 1 }
    else st
  match last with
  | some l =>
    if i == l then
      let st := if st.isOpen then
          let st := match st.runs.head? with
            | some (s, _) => if i ≥ s then { st with out := st.out ++ slice st.copied w.stop, copied := w.stop } else st
            | none => st
          { st with out := st.out ++ m.closing, isOpen := false }
        else st
      { st with out := st.out ++ slice st.copied w.stop, copied := w.stop }
    else st
  | none => st

/-- A column's text with its runs of occurrences marked. -/
def Found.highlight (fd : Found) (doc : Document) (column : Nat) (text opening closing : String)
    (words : List Word) : String :=
  let cs := text.toList
  let m : Marking := { opening := opening, closing := closing, words := words }
  let st := words.zipIdx.foldl (m.step cs 0 none)
    { out := "", copied := 0, isOpen := false, runs := markRuns fd doc column }
  let st := if st.isOpen then { st with out := st.out ++ closing } else st
  st.out ++ String.ofList (cs.drop st.copied)

/-- How many different phrases (1000 each) and further occurrences (1 each) of a column stand in
the window of `size` words from `start`, and the start moved to centre the window on them. -/
def Found.windowScore (fd : Found) (instances : List Instance) (columnSize column start size : Nat) :
    Nat × Nat :=
  let phrases := fd.search.phrases
  let inside := instances.filter fun i => i.column == column && start ≤ i.place && i.place < start + size
  let (score, _) := inside.foldl (fun (acc : Nat × List Nat) i =>
    if acc.2.contains i.phrase then (acc.1 + 1, acc.2) else (acc.1 + 1000, i.phrase :: acc.2)) (0, [])
  match inside.head?, inside.getLast? with
  | some firstI, some lastI =>
    let firstP : Int := firstI.place
    let lastP : Int := lastI.place + ((phrases[lastI.phrase]?.map (·.words.length)).getD 1)
    let adj : Int := firstP - ((size : Int) - (lastP - firstP)).tdiv 2
    let adj := if adj + size > columnSize then (columnSize : Int) - size else adj
    (score, if adj < 0 then 0 else adj.toNat)
  | _, _ =>
    let adj : Int := -1 - ((size : Int) - 1).tdiv 2
    let adj := if adj + size > columnSize then (columnSize : Int) - size else adj
    (score, if adj < 0 then 0 else adj.toNat)

/-- The places of a column's words that start a sentence: the first word, and each word after a
full stop or colon followed by blanks. -/
def sentenceStarts (text : List Char) (words : List Word) : List Nat :=
  words.zipIdx.filterMap fun (w, i) =>
    if i == 0 then some 0
    else
      let before := (text.take w.start).reverse
      let blanks := before.takeWhile fun c => c == ' ' || c == '\t' || c == '\n' || c == '\r'
      match before.drop blanks.length with
      | c :: _ => if !blanks.isEmpty && (c == '.' || c == ':') then some i else none
      | [] => none

/-- The best window of a row for a snippet: its column, its first word, its score and its
column's number of words. -/
def Found.bestWindow (fd : Found) (doc : Document) (columns : List (Option (String × List Word)))
    (column : Int) (size : Nat) : Nat × Nat × Nat × Nat :=
  let instances := fd.search.instances doc
  let start : Nat × Nat × Nat × Nat := (if column ≥ 0 then column.toNat else 0, 0, 0, 0)
  columns.zipIdx.foldl (fun best (col, c) =>
    if column ≥ 0 && column != (c : Int) then best
    else
      let words := (col.map (·.2)).getD []
      let text := (col.map (·.1.toList)).getD []
      let firsts := sentenceStarts text words
      let colSize := ((doc[c]?).map List.length).getD 0
      (instances.filter (·.column == c)).foldl (fun best i =>
        let (score, adj) := fd.windowScore instances colSize c i.place size
        let best := if score > best.2.2.1 then (c, adj, score, colSize) else best
        if !firsts.isEmpty && colSize > size then
          let before := (firsts.zip (firsts.drop 1 ++ [colSize + size + i.place + 1])).find? fun (_, nxt) => nxt > i.place
          let sentence := match before with
            | some (s, _) => s
            | none => firsts.getLast?.getD 0
          if sentence < i.place then
            let (score, _) := fd.windowScore instances colSize c sentence size
            let score := score + (if sentence == 0 then 120 else 100)
            if score > best.2.2.1 then (c, sentence, score, colSize) else best
          else best
        else best) best) start

/-- A snippet of a row: the best window's words with the occurrences marked, and an ellipsis
before it when it does not start the column and after it when it does not end it. -/
def Found.snippet (fd : Found) (doc : Document) (columns : List (Option (String × List Word)))
    (column : Int) (opening closing ellipsis : String) (size : Int) : Option String :=
  let n : Nat := if size < 0 then 0 else size.toNat
  let (best, start, _, colSize) := fd.bestWindow doc columns column n
  match columns[best]? with
  | some (some (text, words)) =>
    let colSize := if colSize == 0 then ((doc[best]?).map List.length).getD 0 else colSize
    let cs := text.toList
    let last : Int := (start : Int) + size - 1
    let m : Marking := { opening := opening, closing := closing, words := words }
    let runs := (markRuns fd doc best).dropWhile fun (s, _) => s < start
    let lead := if start > 0 then ellipsis else ""
    -- A window of no words marks the whole column.
    let st := words.zipIdx.foldl (m.step cs start (if last < 0 then none else some last.toNat))
      { out := lead, copied := 0, isOpen := false, runs := runs : MarkState }
    let st := if st.isOpen then { st with out := st.out ++ closing } else st
    some (if last ≥ (colSize : Int) - 1 then st.out ++ String.ofList (cs.drop st.copied) else st.out ++ ellipsis)
  | _ => none

end RosterSync.Database.TextSearch
