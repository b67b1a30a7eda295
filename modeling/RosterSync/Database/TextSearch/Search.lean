import RosterSync.Database.TextSearch.Tokenizer

/-!
Full-text searches and the rows they find.

A search is a tree of phrases joined by `AND`, `OR` and `NOT`. A phrase is a list of words that
must stand one after another in one column; a word may match any word it begins (`open`) and may
have to be the first of its column. Two kinds of nearness exist:

* a *window* (the newer index's `NEAR(p1 p2 …, n)`) holds when each phrase has an occurrence in
  one column such that, with `m` the last start among them, every phrase `i` starts at or after
  `m - length i - n`;
* a *chain* (the older index's `p1 NEAR/n p2 NEAR/k p3 …`) keeps, from left to right and then from
  right to left, the occurrences of each phrase near a kept occurrence of its neighbour, and
  holds when none runs out. Occurrences are placed at their last word here; `q` is near `p` when
  it lies after `p` by at most `n` plus its own length, or `p` lies after `q` by at most `n` plus
  the length of `p`.

A document is the list of its columns' words, an empty list for a column that is not indexed or
holds nothing.
-/

namespace RosterSync.Database.TextSearch

/-- A word of a phrase: its term, whether any word it begins matches (`open`), and whether it must
be the first word of its column. -/
structure QueryWord where
  term : String
  opening : Bool
  first : Bool
deriving Repr, BEq, Inhabited

/-- Words that must stand one after another, and the columns they are looked for in (all when
none are named). -/
structure Phrase where
  words : List QueryWord
  columns : Option (List Nat)
deriving Repr, BEq, Inhabited

inductive Search where
  | phrase (p : Phrase)
  | window (phrases : List Phrase) (gap : Nat)
  | chain (head : Phrase) (links : List (Nat × Phrase))
  | both (a b : Search)
  | either (a b : Search)
  | without (a b : Search)
  | nothing
deriving Repr, BEq, Inhabited

abbrev Document := List (List String)

/-- Whether a query word matches a word of a document. -/
def QueryWord.fits (w : QueryWord) (term : String) : Bool :=
  if w.opening then w.term.toList.isPrefixOf term.toList else term == w.term

/-- Whether a phrase's words stand from a place on in a column's words. -/
def Phrase.standsAt (p : Phrase) (words : List String) (start : Nat) : Bool :=
  !p.words.isEmpty &&
    (p.words.zipIdx.all fun (w, k) =>
      (!w.first || start + k == 0) &&
        match words[start + k]? with
        | some t => w.fits t
        | none => false)

/-- Whether a phrase is looked for in a column. -/
def Phrase.searches (p : Phrase) (col : Nat) : Bool :=
  match p.columns with
  | none => true
  | some cs => cs.contains col

/-- The places where a phrase starts in a document, as (column, position). -/
def Phrase.starts (p : Phrase) (doc : Document) : List (Nat × Nat) :=
  doc.zipIdx.flatMap fun (words, col) =>
    if p.searches col then
      ((List.range words.length).filter (p.standsAt words)).map fun i => (col, i)
    else []

/-- Whether the phrases of a window have occurrences close enough together in one column. -/
def windowHolds (phrases : List Phrase) (gap : Nat) (doc : Document) : Bool :=
  let occ := phrases.map fun p => (p.words.length, p.starts doc)
  (List.range doc.length).any fun col =>
    let inCol : List (Nat × List Nat) := occ.map fun (len, ss) =>
      (len, ss.filterMap fun (c, s) => if c == col then some s else none)
    (inCol.flatMap Prod.snd).any fun last =>
      inCol.all fun (len, ss) =>
        ss.any fun s => (s : Int) ≥ (last : Int) - len - gap && s ≤ last

/-- The occurrences of a phrase kept because one of a neighbour's lies near: `(column, place of
the last word)` pairs. -/
def nearTrim (gap : Nat) (mine : List (Nat × Nat)) (myLength : Nat)
    (theirs : List (Nat × Nat)) (theirLength : Nat) : List (Nat × Nat) :=
  mine.filter fun (c, p) =>
    theirs.any fun (c', q) =>
      c == c' && ((q < p && p ≤ q + gap + myLength) || (p < q && q ≤ p + gap + theirLength))

/-- The occurrences of a phrase placed at its last word. -/
def Phrase.ends (p : Phrase) (doc : Document) : List (Nat × Nat) :=
  (p.starts doc).map fun (c, s) => (c, s + p.words.length - 1)

/-- One pass of a chain: each phrase's occurrences trimmed by the kept ones of the phrase before
it; `none` when some phrase keeps none. -/
def chainPass : List (Nat × Nat) → Nat → List (Nat × List (Nat × Nat) × Nat) →
    Option (List (List (Nat × Nat)))
  | _, _, [] => some []
  | cur, curLen, (gap, occ, len) :: rest =>
    let kept := nearTrim gap occ len cur curLen
    if kept.isEmpty then none
    else (chainPass kept len rest).map (kept :: ·)

/-- Whether a chain of phrases holds: a pass from left to right, then one from right to left
over what it kept. -/
def chainHolds (head : Phrase) (links : List (Nat × Phrase)) (doc : Document) : Bool :=
  let headOcc := head.ends doc
  if headOcc.isEmpty then false
  else
    match chainPass headOcc head.words.length
        (links.map fun (g, p) => (g, p.ends doc, p.words.length)) with
    | none => false
    | some kept =>
      -- Going back, each phrase is trimmed by the one after it, with the gap between them.
      let lens := head.words.length :: links.map fun (_, p) => p.words.length
      let lists := headOcc :: kept
      let gaps := links.map (·.1)
      let items := ((lists.zip lens).zip (gaps ++ [0])).reverse
      match items with
      | [] => false
      | ((last, lastLen), _) :: before =>
        (chainPass last lastLen (before.map fun ((occ, len), g) => (g, occ, len))).isSome

def Search.holds (doc : Document) : Search → Bool
  | .phrase p => !(p.starts doc).isEmpty
  | .window ps gap => windowHolds ps gap doc
  | .chain head links => chainHolds head links doc
  | .both a b => a.holds doc && b.holds doc
  | .either a b => a.holds doc || b.holds doc
  | .without a b => a.holds doc && !b.holds doc
  | .nothing => false

/-- The first search a newer index that records less than where words stand cannot answer, in
the order the query was written: a phrase of several words or one that must come first, a window
of several phrases, and (when only rows are recorded) a phrase kept to some columns. -/
def Search.detailError (rowsOnly : Bool) : Search → Option String
  | .phrase p => phraseError p
  | .window ps _ =>
    (ps.findSome? phraseError).orElse fun _ =>
      if ps.length > 1 then some "fts5: NEAR queries are not supported (detail!=full)" else none
  | .chain head links => (head :: links.map (·.2)).findSome? phraseError
  | .both a b | .either a b | .without a b =>
    (a.detailError rowsOnly).orElse fun _ => b.detailError rowsOnly
  | .nothing => none
where
  phraseError (p : Phrase) : Option String :=
    if p.words.length > 1 || p.words.any (·.first) then
      some "fts5: phrase queries are not supported (detail!=full)"
    else if rowsOnly && p.columns.isSome then
      some "fts5: column queries are not supported (detail=none)"
    else none

/-- Narrows the columns of every phrase of a search to those listed; a phrase left with no column
matches nothing. -/
def Search.within (cols : List Nat) : Search → Search
  | .phrase p => .phrase (narrow p)
  | .window ps gap => .window (ps.map narrow) gap
  | .chain head links => .chain (narrow head) (links.map fun (g, p) => (g, narrow p))
  | .both a b => .both (a.within cols) (b.within cols)
  | .either a b => .either (a.within cols) (b.within cols)
  | .without a b => .without (a.within cols) (b.within cols)
  | .nothing => .nothing
where
  narrow (p : Phrase) : Phrase :=
    { p with columns := some (match p.columns with
      | none => cols
      | some cs => cs.filter cols.contains) }

end RosterSync.Database.TextSearch
