import RosterSync.Database.TextSearch.Search

/-!
Where the phrases of an older index's search stand in a row, and what they add up to over the
index.

The older index counts the phrases of a search in the order they are written, leaving out those
on the right of a `NOT`, and places an occurrence of a phrase at its last word. A row gives each
counted phrase every place where it stands, but the phrases of a chain of nearness keep only
the places the chain keeps. When such a chain fails in a row that another branch of an `OR`
found, its phrases keep what the chain's first pass kept before it ran out, provided all of them
stand in the row; otherwise they keep nothing.

Walking a search to a row, the index reaches a phrase when the phrase and every part above it
stand at the row: a phrase where it occurs, a chain where all its phrases occur, `AND` where
both sides stand, `OR` where either does, `NOT` where its left side does.

The totals of an index are what its statistics count over all rows: the rows, each column's
words, and for each counted phrase and column the occurrences and the rows that hold one. A
chain's phrases count only in rows where the chain holds.
-/

-- sums of naturals start from the core zero even where the algebraic one is in scope
attribute [local instance (2000)] Zero.ofOfNat0

namespace RosterSync.Database.TextSearch

/-- The phrases the older index counts, in the order written: the right side of a `NOT` is left
out. -/
def Search.counted : Search → List Phrase
  | .phrase p => [p]
  | .window ps _ => ps
  | .chain head links => head :: links.map (·.2)
  | .both a b | .either a b => a.counted ++ b.counted
  | .without a _ => a.counted
  | .nothing => []

/-- The first pass of a chain: each phrase's places trimmed by the kept places of the phrase
before it, until one keeps none. The places each phrase has after the pass (those after the one
that kept none untouched), and whether the pass went through. -/
def chainForward (cur : List (Nat × Nat)) (curLen : Nat) :
    List (Nat × List (Nat × Nat) × Nat) → List (List (Nat × Nat)) × Bool
  | [] => ([], true)
  | (gap, occ, len) :: rest =>
    let kept := nearTrim gap occ len cur curLen
    if kept.isEmpty then (occ :: rest.map (·.2.1), false)
    else
      let (more, ok) := chainForward kept len rest
      (kept :: more, ok)

/-- The places each phrase of a chain keeps in a row, head first, and whether the chain holds: a
pass from left to right and, when it goes through, one from right to left over what it kept. -/
def chainPlaces (head : Phrase) (links : List (Nat × Phrase)) (doc : Document) :
    List (List (Nat × Nat)) × Bool :=
  let headOcc := head.ends doc
  let (kept, ok) := chainForward headOcc head.words.length
    (links.map fun (g, p) => (g, p.ends doc, p.words.length))
  let lists := headOcc :: kept
  if !ok || headOcc.isEmpty then (lists, false)
  else
    -- Going back, each phrase is trimmed by the one after it, with the gap between them.
    let lens := head.words.length :: links.map fun (_, p) => p.words.length
    let gaps := links.map (·.1)
    match ((lists.zip lens).zip (gaps ++ [0])).reverse with
    | [] => (lists, false)
    | ((last, lastLen), _) :: before =>
      let (back, _) := chainForward last lastLen (before.map fun ((occ, len), g) => (g, occ, len))
      ((last :: back).reverse, true)

/-- The places of each counted phrase in a row, as (column, place of the last word). With `held`,
the phrases of a chain that fails keep nothing; without it, they keep what the failing chain's
first pass left them when all of them stand in the row. -/
def Search.placesIn (doc : Document) (held : Bool) : Search → List (List (Nat × Nat))
  | .phrase p => [p.ends doc]
  | .window ps _ => ps.map (·.ends doc)
  | .chain head links =>
    let phrases := head :: links.map (·.2)
    let (lists, holds) := chainPlaces head links doc
    if holds || (!held && phrases.all fun p => !(p.ends doc).isEmpty) then lists
    else phrases.map fun _ => []
  | .both a b | .either a b => a.placesIn doc held ++ b.placesIn doc held
  | .without a _ => a.placesIn doc held
  | .nothing => []

/-- Whether a part of a search stands at a row as the index walks it. -/
def Search.stands (doc : Document) : Search → Bool
  | .phrase p => !(p.ends doc).isEmpty
  | .window ps _ => ps.all fun p => !(p.ends doc).isEmpty
  | .chain head links => (head :: links.map (·.2)).all fun p => !(p.ends doc).isEmpty
  | .both a b => a.stands doc && b.stands doc
  | .either a b => a.stands doc || b.stands doc
  | .without a _ => a.stands doc
  | .nothing => false

/-- For each counted phrase, whether the walk to the row reaches it. -/
def Search.reached (doc : Document) : Search → List Bool
  | s@(.phrase _) | s@(.window _ _) | s@(.chain _ _) => s.counted.map fun _ => s.stands doc
  | s@(.both a b) | s@(.either a b) =>
    if s.stands doc then a.reached doc ++ b.reached doc else s.counted.map fun _ => false
  | .without a _ => a.reached doc
  | .nothing => []

/-- What an index's statistics count over all its rows: the rows, each column's words, and for
each counted phrase and column the occurrences and the rows holding one. -/
structure Totals where
  rows : Nat
  columnWords : List Nat
  phraseHits : List (List (Nat × Nat))
deriving Repr, Inhabited

/-- The totals of a search over the documents of an index's rows, with the given number of
columns. -/
def Totals.ofDocuments (s : Search) (columns : Nat) (docs : List Document) : Totals :=
  let perRow := docs.map fun d => s.placesIn d true
  { rows := docs.length,
    columnWords := (List.range columns).map fun c =>
      (docs.map fun d => ((d[c]?).map List.length).getD 0).sum,
    phraseHits := (List.range s.counted.length).map fun i =>
      (List.range columns).map fun c =>
        let counts := perRow.map fun places => (((places[i]?).getD []).filter (·.1 == c)).length
        (counts.sum, (counts.filter (· > 0)).length) }

end RosterSync.Database.TextSearch
