import RosterSync.Database.Json.Node

/-!
Paths into JSON values, and edits along them.

A path is `$` followed by steps: `.key` (up to the next `.` or `[`), `."key"` (any text up to
the next quote; with a backslash in it, its escapes are decoded), `[n]`, `[#]` (one past the
last item) and `[#-n]` (`n` from the end). A step that names no member or item finds nothing; a
step that cannot be read is a path error, but only once the search reaches it. The first member
with a matching label is the one a key names.

Edits follow a path and then remove, replace, insert or set the value there. Inserting and
setting add a missing member at the end of its object, or an item one past the end of its
array, building empty objects and arrays for the rest of the path.

A merge patch (RFC 7396) merges an object into a value member by member: `null` removes a
member, objects merge into objects, anything else replaces.
-/

-- natural powers take the core instance even where the monoid power is in scope
attribute [local instance (2000)] instPowNat

namespace RosterSync.Database

/-- The label a key step names and the rest of the path, from the text after the dot; `none`
for a key that is empty or whose quote is not closed. -/
def pathKey (p : List Char) : Option (JLabel × List Char) :=
  match p with
  | '"' :: rest =>
    let key := rest.takeWhile (· ≠ '"')
    match rest.drop key.length with
    | _ :: more => some ((if key.contains '\\' then .extended else .raw, String.ofList key), more)
    | [] => none
  | _ =>
    let key := p.takeWhile fun c => c ≠ '.' && c ≠ '['
    if key.isEmpty then none else some ((.raw, String.ofList key), p.drop key.length)

/-- Decimal digits read into an unsigned 32-bit number, wrapping around. -/
def wrappedDigits (ds : List Char) : Nat := ds.foldl (fun k c => (k * 10 + digitOf c) % 2 ^ (32 : Nat)) 0

/-- The place an index step names in an array of `count` items, from the text after the
bracket, with the rest of the path after `]`: `.ok none` when `[#-n]` reaches before the first
item, an error for a step that cannot be read. -/
def pathIndex (p : List Char) (count : Nat) : Except Unit (Option (Nat × List Char)) :=
  let ds := p.takeWhile Char.isDigit
  match p.drop ds.length with
  | ']' :: rest => if ds.isEmpty then .error () else .ok (some (wrappedDigits ds, rest))
  | _ =>
    match p with
    | '#' :: '-' :: more =>
      let es := more.takeWhile Char.isDigit
      if es.isEmpty then .error ()
      else
        let nn := wrappedDigits es
        if nn > count then .ok none
        else
          match more.drop es.length with
          | ']' :: rest => .ok (some (count - nn, rest))
          | _ => .error ()
    | '#' :: ']' :: rest => .ok (some (count, rest))
    | _ => .error ()

/-- The value a path (the text after `$`) reaches: `none` when a step finds nothing, an error
for a step that cannot be read. -/
def JNode.find : Nat → JNode → List Char → Except Unit (Option JNode)
  | 0, _, _ => .ok none
  | _ + 1, v, [] => .ok (some v)
  | fuel + 1, v, '.' :: p =>
    match pathKey p with
    | none => .error ()
    | some (key, rest) =>
      match v with
      | .obj ms =>
        match ms.find? (fun m => labelsMatch key m.1) with
        | some (_, w) => w.find fuel rest
        | none => .ok none
      | _ => .ok none
  | fuel + 1, v, '[' :: p =>
    match v with
    | .arr xs =>
      match pathIndex p xs.length with
      | .error _ => .error ()
      | .ok none => .ok none
      | .ok (some (k, rest)) =>
        match xs[k]? with
        | some w => w.find fuel rest
        | none => .ok none
    | _ => .ok none
  | _ + 1, _, _ => .error ()

/-- What an edit does at the end of its path. -/
inductive EditMode where
  | remove
  | replace
  | insert
  | set
deriving DecidableEq, Repr

def EditMode.adds : EditMode → Bool
  | .insert | .set => true
  | .remove | .replace => false

/-- The outcome of an edit on a value: nothing to do, a new value, or the value removed from
its container. -/
inductive Edited where
  | unchanged
  | changed (v : JNode)
  | removed

mutual

/-- Edits a value along a path (the text after `$`), putting `ins` where a replace, insert or
set reaches; an error for a step that cannot be read. -/
def JNode.edit : Nat → EditMode → JNode → JNode → List Char → Except Unit Edited
  | 0, _, _, _, _ => .ok .unchanged
  | _ + 1, mode, _, ins, [] =>
    .ok (match mode with
      | .remove => .removed
      | .insert => .unchanged
      | .replace | .set => .changed ins)
  | fuel + 1, mode, v, ins, '.' :: p =>
    match pathKey p with
    | none => .error ()
    | some (key, rest) =>
      match v with
      | .obj ms =>
        match ms.findIdx? (fun m => labelsMatch key m.1) with
        | some idx =>
          match ms[idx]? with
          | some (label, w) =>
            match w.edit fuel mode ins rest with
            | .error e => .error e
            | .ok .unchanged => .ok .unchanged
            | .ok (.changed w') => .ok (.changed (.obj (ms.set idx (label, w'))))
            | .ok .removed => .ok (.changed (.obj (ms.eraseIdx idx)))
          | none => .ok .unchanged
        | none =>
          if mode.adds then
            match builtValue fuel mode ins rest with
            | .error e => .error e
            | .ok (some w) => .ok (.changed (.obj (ms ++ [(key, w)])))
            | .ok none => .ok .unchanged
          else .ok .unchanged
      | _ => .ok .unchanged
  | fuel + 1, mode, v, ins, '[' :: p =>
    match v with
    | .arr xs =>
      match pathIndex p xs.length with
      | .error e => .error e
      | .ok none => .ok .unchanged
      | .ok (some (k, rest)) =>
        match xs[k]? with
        | some w =>
          match w.edit fuel mode ins rest with
          | .error e => .error e
          | .ok .unchanged => .ok .unchanged
          | .ok (.changed w') => .ok (.changed (.arr (xs.set k w')))
          | .ok .removed => .ok (.changed (.arr (xs.eraseIdx k)))
        | none =>
          if k = xs.length && mode.adds then
            match builtValue fuel mode ins rest with
            | .error e => .error e
            | .ok (some w) => .ok (.changed (.arr (xs ++ [w])))
            | .ok none => .ok .unchanged
          else .ok .unchanged
    | _ => .ok .unchanged
  | _ + 1, _, _, _, _ => .error ()

/-- The value to put where an insert or set adds a member or item with `rest` of the path
still to follow: `ins` itself at the end of the path, else an empty object (for a `.` step) or
array edited along the rest; `none` when the rest finds nothing there. -/
def builtValue : Nat → EditMode → JNode → List Char → Except Unit (Option JNode)
  | 0, _, _, _ => .ok none
  | _ + 1, _, ins, [] => .ok (some ins)
  | fuel + 1, mode, ins, c :: rest =>
    let empty := if c = '.' then JNode.obj [] else .arr []
    match empty.edit fuel mode ins (c :: rest) with
    | .error e => .error e
    | .ok (.changed w) => .ok (some w)
    | .ok _ => .ok none

end

/-- Merges a patch into a value (RFC 7396). A patch that is no object replaces the value; an
object patch turns a value that is no object into an empty object, then for each of its members
in turn removes the first member with that label (for `null`), merges into it, or adds it at
the end, merged into an empty object. -/
def JNode.mergePatch : Nat → JNode → JNode → JNode
  | 0, target, _ => target
  | fuel + 1, target, .obj pms =>
    let start := match target with
      | .obj ms => ms
      | _ => []
    let step (ms : List (JLabel × JNode)) (m : JLabel × JNode) : List (JLabel × JNode) :=
      match ms.findIdx? (fun t => labelsMatch m.1 t.1), m.2 with
      | some idx, .null => ms.eraseIdx idx
      | some idx, pv => ms.modify idx fun (l, tv) => (l, tv.mergePatch fuel pv)
      | none, .null => ms
      | none, pv@(.obj _) => ms ++ [(m.1, JNode.null.mergePatch fuel pv)]
      | none, pv => ms ++ [(m.1, pv)]
    .obj (pms.foldl step start)
  | _ + 1, _, patch => patch

end RosterSync.Database
