import RosterSync.Url
import RosterSync.Proofs.CorrelationTokens

/-!
What the URL parser makes of a path segment.

Percent-encoding a text by the path set and decoding it gives back its UTF-8 bytes, unless the
text itself holds a `%` followed by two hex digits, which decodes to another byte
(`percentDecode_encode`). The segments the parser reads as `.` or `..` decode to dots, so an
encoded text is one of them only when the text is a dot or two (`PlainSegment.not_dots`). The path
state reads code points that end nothing into the current segment (`pathState_plain`); an origin
followed by a path is read as that origin and the path state's reading of the path
(`parse_origin_append`). A plain segment (`PlainSegment`) is then read as exactly one segment.
-/

namespace RosterSync.Url

/-! ## Percent-encoding, then decoding -/

theorem encodeChar_of_plain {inSet : Char → Bool} {c : Char} (h : c.toNat < 0x80)
    (hs : inSet c = false) : encodeChar inSet c = [c] := by
  simp [encodeChar, h, hs]

theorem hexValue?_hexDigit : ∀ n, n < 16 → Token.hexValue? (hexDigit n) = some n := by
  decide

theorem percentDecode_percentByte (b : UInt8) (rest : List Char) :
    percentDecode (percentByte b ++ rest) = b :: percentDecode rest := by
  have hb : b.toNat < 256 := b.toNat_lt
  have hhi := hexValue?_hexDigit (b.toNat / 16) (by omega)
  have hlo := hexValue?_hexDigit (b.toNat % 16) (by omega)
  simp only [percentByte, List.cons_append, List.nil_append, percentDecode, hhi, hlo]
  rw [show b.toNat / 16 * 16 + b.toNat % 16 = b.toNat by omega]
  simp

theorem percentDecode_percentBytes (bs : List UInt8) (rest : List Char) :
    percentDecode (bs.flatMap percentByte ++ rest) = bs ++ percentDecode rest := by
  induction bs with
  | nil => rfl
  | cons b bs ih => rw [List.flatMap_cons, List.append_assoc, percentDecode_percentByte, ih,
      List.cons_append]

@[simp] theorem encode_nil (inSet : Char → Bool) : encode inSet [] = [] := rfl

@[simp] theorem encode_cons (inSet : Char → Bool) (c : Char) (cs : List Char) :
    encode inSet (c :: cs) = encodeChar inSet c ++ encode inSet cs := rfl

theorem encodeChar_of_escaped {inSet : Char → Bool} {c : Char}
    (h : ¬(c.toNat < 0x80 ∧ inSet c = false)) :
    encodeChar inSet c = (String.utf8EncodeChar c).flatMap percentByte := by
  simp only [encodeChar]
  rw [if_neg (by simpa using h)]

theorem encodeChar_of_escaped_cons {inSet : Char → Bool} {c : Char}
    (h : ¬(c.toNat < 0x80 ∧ inSet c = false)) :
    ∃ x y rest, encodeChar inSet c = '%' :: x :: y :: rest := by
  rw [encodeChar_of_escaped h]
  obtain ⟨b, bs, hbs⟩ := List.exists_cons_of_ne_nil (String.utf8EncodeChar_ne_nil (c := c))
  exact ⟨_, _, _, by rw [hbs, List.flatMap_cons]; rfl⟩

def hexPairAhead : List Char → Bool
  | x :: y :: _ => (Token.hexValue? x).isSome && (Token.hexValue? y).isSome
  | _ => false

/-- Whether some `%` is followed by two hex digits: such an escape decodes to another byte. -/
def hasEscape : List Char → Bool
  | [] => false
  | c :: rest => (c == '%' && hexPairAhead rest) || hasEscape rest

theorem percentDecode_cons_of_ne {c : Char} (hc : c ≠ '%') (rest : List Char) :
    percentDecode (c :: rest) = String.utf8EncodeChar c ++ percentDecode rest := by
  rw [percentDecode.eq_def]
  split <;> simp_all

theorem percentDecode_percent {rest : List Char} (h : hexPairAhead rest = false) :
    percentDecode ('%' :: rest) = 37 :: percentDecode rest := by
  match rest, h with
  | [], _ => rfl
  | [_], _ => rfl
  | x :: y :: more, h =>
    rw [percentDecode]
    cases hx : Token.hexValue? x <;> cases hy : Token.hexValue? y <;>
      simp_all [hexPairAhead]

/-- Escapes start with `%`, which is no hex digit: two hex digits at the head of an encoded text
are two code points of the text, written as they are. -/
theorem hexPairAhead_of_encode {cs : List Char} (h : hexPairAhead (encode pathSet cs) = true) :
    hexPairAhead cs = true := by
  have hpct : Token.hexValue? '%' = none := rfl
  match cs with
  | [] => simp [hexPairAhead] at h
  | a :: cs =>
    by_cases ha : a.toNat < 0x80 ∧ pathSet a = false
    · rw [encode_cons, encodeChar_of_plain ha.1 ha.2] at h
      match cs with
      | [] => simp [hexPairAhead] at h
      | b :: bs =>
        by_cases hb : b.toNat < 0x80 ∧ pathSet b = false
        · rw [encode_cons, encodeChar_of_plain hb.1 hb.2] at h
          simpa [hexPairAhead] using h
        · obtain ⟨x, y, rest, hrest⟩ := encodeChar_of_escaped_cons hb
          rw [encode_cons, hrest] at h
          simp [hexPairAhead, hpct] at h
    · obtain ⟨x, y, rest, hrest⟩ := encodeChar_of_escaped_cons ha
      rw [encode_cons, hrest] at h
      simp [hexPairAhead, hpct] at h

theorem percentDecode_encode : ∀ {cs : List Char}, hasEscape cs = false →
    percentDecode (encode pathSet cs) = cs.flatMap String.utf8EncodeChar
  | [], _ => rfl
  | c :: cs, h => by
    simp only [hasEscape, Bool.or_eq_false_iff] at h
    have ih := percentDecode_encode h.2
    rw [encode_cons, List.flatMap_cons]
    by_cases hc : c.toNat < 0x80 ∧ pathSet c = false
    · rw [encodeChar_of_plain hc.1 hc.2, List.singleton_append]
      by_cases hpct : c = '%'
      · -- a `%` of the text: no two hex digits follow it, in the text or encoded
        subst hpct
        have hahead : hexPairAhead (encode pathSet cs) = false := by
          have hcs : hexPairAhead cs = false := by simpa using h.1
          cases hq : hexPairAhead (encode pathSet cs)
          · rfl
          · exact absurd (hexPairAhead_of_encode hq) (by simp [hcs])
        rw [percentDecode_percent hahead, ih]
        rfl
      · rw [percentDecode_cons_of_ne hpct, ih]
    · rw [encodeChar_of_escaped hc, percentDecode_percentBytes, ih]

/-! ## Dot segments -/

theorem eq_of_toLower_eq {c d : Char} (h : c.toLower = d) (hd : d.toNat < 97) : c = d := by
  have hl := Token.toNat_toLower c
  rw [h] at hl
  apply Char.toNat_inj.mp
  split at hl <;> omega

theorem hexValue?_of_toLower_eq_e {c : Char} (h : c.toLower = 'e') :
    Token.hexValue? c = some 14 := by
  have hl := Token.toNat_toLower c
  rw [h] at hl
  have he : 'e'.toNat = 101 := rfl
  rw [Token.hexValue?_eq]
  split at hl
  · have hc : c.toNat = 69 := by omega
    simp [hc]
  · have hc : c.toNat = 101 := by omega
    simp [hc]

theorem percentDecode_escapedDot {c : Char} (h : c.toLower = 'e') (rest : List Char) :
    percentDecode ('%' :: '2' :: c :: rest) = 46 :: percentDecode rest := by
  have htwo : Token.hexValue? '2' = some 2 := rfl
  simp only [percentDecode, htwo, hexValue?_of_toLower_eq_e h]
  rfl

theorem percentDecode_of_isSingleDot {seg : List Char} (h : isSingleDot seg = true) :
    percentDecode seg = [46] := by
  simp only [isSingleDot, Bool.or_eq_true, beq_iff_eq, List.map_eq_cons_iff,
    List.map_eq_nil_iff] at h
  rcases h with ⟨x, _, rfl, hx, rfl⟩ | ⟨a, _, rfl, ha, b, _, rfl, hb, c, _, rfl, hc, rfl⟩
  · rw [eq_of_toLower_eq hx (by decide)]
    rfl
  · rw [eq_of_toLower_eq ha (by decide), eq_of_toLower_eq hb (by decide),
      percentDecode_escapedDot hc]
    rfl

theorem percentDecode_of_isDoubleDot {seg : List Char} (h : isDoubleDot seg = true) :
    percentDecode seg = [46, 46] := by
  have hdot : percentDecode ['.'] = [46] := rfl
  simp only [isDoubleDot, Bool.or_eq_true, beq_iff_eq, List.map_eq_cons_iff,
    List.map_eq_nil_iff] at h
  rcases h with ((⟨x, _, rfl, hx, y, _, rfl, hy, rfl⟩ |
      ⟨x, _, rfl, hx, a, _, rfl, ha, b, _, rfl, hb, c, _, rfl, hc, rfl⟩) |
      ⟨a, _, rfl, ha, b, _, rfl, hb, c, _, rfl, hc, x, _, rfl, hx, rfl⟩) |
      ⟨a, _, rfl, ha, b, _, rfl, hb, c, _, rfl, hc, a', _, rfl, ha', b', _, rfl, hb', c', _, rfl,
        hc', rfl⟩
  · rw [eq_of_toLower_eq hx (by decide), eq_of_toLower_eq hy (by decide)]
    rfl
  · rw [eq_of_toLower_eq hx (by decide), eq_of_toLower_eq ha (by decide),
      eq_of_toLower_eq hb (by decide), percentDecode_cons_of_ne (by decide),
      percentDecode_escapedDot hc]
    rfl
  · rw [eq_of_toLower_eq hx (by decide), eq_of_toLower_eq ha (by decide),
      eq_of_toLower_eq hb (by decide), percentDecode_escapedDot hc, hdot]
  · rw [eq_of_toLower_eq ha (by decide), eq_of_toLower_eq hb (by decide),
      eq_of_toLower_eq ha' (by decide), eq_of_toLower_eq hb' (by decide),
      percentDecode_escapedDot hc, percentDecode_escapedDot hc']
    rfl

theorem eq_of_utf8 {cs ds : List Char}
    (h : cs.flatMap String.utf8EncodeChar = ds.flatMap String.utf8EncodeChar) : cs = ds := by
  have henc : cs.utf8Encode = ds.utf8Encode := by
    simp only [List.utf8Encode, h]
  have hdec := congrArg ByteArray.utf8Decode? henc
  simpa using hdec

/-! ## The path state -/

theorem pathState_plain {path : List String} {buffer cs : List Char}
    (h : ∀ c ∈ cs, isSlash c = false ∧ c ≠ '?' ∧ c ≠ '#') (rest : List Char) :
    pathState path buffer (cs ++ rest) = pathState path (buffer ++ encode pathSet cs) rest := by
  induction cs generalizing buffer with
  | nil => simp
  | cons c cs ih =>
    obtain ⟨hs, hq, hh⟩ := h c List.mem_cons_self
    rw [List.cons_append, pathState, if_neg (by simp [hs]), if_neg (by simp [hq, hh]),
      ih fun x hx => h x (List.mem_cons_of_mem _ hx), encode_cons, List.append_assoc]

theorem endSegment_of_not_dot {buffer : List Char} (hs : isSingleDot buffer = false)
    (hd : isDoubleDot buffer = false) (path : List String) (slash : Bool) :
    endSegment path buffer slash = path ++ [String.ofList buffer] := by
  simp [endSegment, hs, hd]

/-! ## An origin followed by a path -/

/-- The text of a special URL's origin: a special scheme, `://` and a nonempty authority with no
code point that ends an authority or that the parser drops. -/
structure Origin where
  scheme : String
  authority : String
  special : scheme ∈ specialSchemes
  nonempty : authority ≠ ""
  plain : ∀ c ∈ authority.toList, endsAuthority c = false ∧ isTabOrNewline c = false

def Origin.text (o : Origin) : String := o.scheme ++ "://" ++ o.authority

theorem clean_eq_self {cs : List Char} (hhead : ∀ c ∈ cs.head?, isC0OrSpace c = false)
    (hlast : ∀ c ∈ cs.getLast?, isC0OrSpace c = false)
    (hdrop : ∀ c ∈ cs, isTabOrNewline c = false) : clean cs = cs := by
  have htrim : ∀ ds : List Char, (∀ c ∈ ds.head?, isC0OrSpace c = false) →
      ds.dropWhile isC0OrSpace = ds := by
    intro ds hds
    cases ds with
    | nil => rfl
    | cons d ds => exact List.dropWhile_cons_of_neg (by simpa using hds d rfl)
  have hrev : ∀ c ∈ cs.reverse.head?, isC0OrSpace c = false := by
    rw [List.head?_reverse]
    exact hlast
  rw [clean, htrim cs hhead, htrim cs.reverse hrev, List.reverse_reverse]
  exact List.filter_eq_self.mpr fun c hc => by simp [hdrop c hc]

theorem splitScheme_special {scheme : String} (h : scheme ∈ specialSchemes) (rest : List Char) :
    splitScheme (scheme.toList ++ ':' :: rest) = some (scheme, rest) := by
  simp only [specialSchemes, List.mem_cons, List.not_mem_nil, or_false] at h
  rcases h with rfl | rfl | rfl | rfl | rfl <;> rfl

theorem special_chars {scheme : String} (h : scheme ∈ specialSchemes) :
    (∃ s ss, scheme.toList = s :: ss ∧ isC0OrSpace s = false) ∧
      ∀ c ∈ scheme.toList, isTabOrNewline c = false := by
  have hall : specialSchemes.all (fun s => s.toList.all fun c => !isTabOrNewline c) = true := rfl
  refine ⟨?_, fun c hc => by simpa using List.all_eq_true.mp (List.all_eq_true.mp hall _ h) c hc⟩
  simp only [specialSchemes, List.mem_cons, List.not_mem_nil, or_false] at h
  rcases h with rfl | rfl | rfl | rfl | rfl <;> exact ⟨_, _, rfl, rfl⟩

theorem getLast?_slash_cons {tail : List Char} (hlast : ∀ c ∈ tail.getLast?, isC0OrSpace c = false) :
    ∀ c ∈ ('/' :: tail).getLast?, isC0OrSpace c = false := by
  intro c hc
  rw [List.getLast?_cons] at hc
  cases ht : tail.getLast? with
  | none =>
    simp only [ht, Option.getD_none, Option.mem_def, Option.some.injEq] at hc
    subst hc
    rfl
  | some d =>
    simp only [ht, Option.getD_some, Option.mem_def, Option.some.injEq] at hc
    subst hc
    exact hlast d ht

/-- The parser reads an origin followed by a path as that origin, and the path state's reading of
the path after its first slash. -/
theorem parse_origin_append (o : Origin) {tail : List Char}
    (hdrop : ∀ c ∈ tail, isTabOrNewline c = false)
    (hlast : ∀ c ∈ tail.getLast?, isC0OrSpace c = false) :
    parse (o.text ++ String.ofList ('/' :: tail)) =
      some { scheme := o.scheme, authority := o.authority, path := (pathState [] [] tail).1,
             query := (queryAndFragment (pathState [] [] tail).2).1,
             fragment := (queryAndFragment (pathState [] [] tail).2).2 } := by
  obtain ⟨⟨s, ss, hs, hs0⟩, hscheme⟩ := special_chars o.special
  have hne : o.authority.toList ≠ [] := by simpa using o.nonempty
  obtain ⟨a, as, has⟩ := List.exists_cons_of_ne_nil hne
  have hchars : (o.text ++ String.ofList ('/' :: tail)).toList =
      (o.scheme.toList ++ ':' :: '/' :: '/' :: o.authority.toList) ++ '/' :: tail := by
    simp [Origin.text, String.toList_append]
  have hclean : clean (o.text ++ String.ofList ('/' :: tail)).toList =
      o.scheme.toList ++ ':' :: '/' :: '/' :: (o.authority.toList ++ '/' :: tail) := by
    rw [hchars, clean_eq_self]
    · simp
    · simp [hs, hs0]
    · rw [List.getLast?_append_of_ne_nil _ (by simp)]
      exact getLast?_slash_cons hlast
    · intro c hc
      simp only [List.mem_append, List.mem_cons] at hc
      rcases hc with (hc | rfl | rfl | rfl | hc) | rfl | hc
      · exact hscheme c hc
      all_goals first | rfl | exact (o.plain c hc).2 | exact hdrop c hc
  have ha : isSlash a = false := by
    have := (o.plain a (by simp [has])).1
    simp only [endsAuthority, Bool.or_eq_false_iff] at this
    exact this.1.1
  have hslashes : (('/' :: '/' :: (o.authority.toList ++ '/' :: tail)).dropWhile isSlash) =
      o.authority.toList ++ '/' :: tail := by
    rw [List.dropWhile_cons_of_pos rfl, List.dropWhile_cons_of_pos rfl, has, List.cons_append,
      List.dropWhile_cons_of_neg (by simp [ha])]
  have hplain : ∀ c ∈ o.authority.toList, (!endsAuthority c) = true := fun c hc => by
    simp [(o.plain c hc).1]
  have htake : ('/' :: tail).takeWhile (fun c => !endsAuthority c) = [] := rfl
  have hrest : ('/' :: tail).dropWhile (fun c => !endsAuthority c) = '/' :: tail := rfl
  have hstart : afterPathStart ('/' :: tail) = tail := rfl
  have hempty : o.authority.toList.isEmpty = false := by simpa using hne
  simp only [parse, hclean, splitScheme_special o.special, o.special, if_true, hslashes,
    List.takeWhile_append_of_pos hplain, List.dropWhile_append_of_pos hplain, htake, hrest,
    List.append_nil, hstart, hempty, String.ofList_toList, Bool.false_eq_true, if_false]

/-! ## Plain segments -/

/-- A text that the path state reads as one segment decoding back to it: no code point that ends
a segment or the path or that the parser drops, no escape, neither `.` nor `..`, and no C0
control or space at its end, which the parser trims. -/
structure PlainSegment (r : String) : Prop where
  no_delimiter : ∀ c ∈ r.toList, isSlash c = false ∧ c ≠ '?' ∧ c ≠ '#' ∧ isTabOrNewline c = false
  no_escape : hasEscape r.toList = false
  not_dot : r ≠ "." ∧ r ≠ ".."
  last : ∀ c ∈ r.toList.getLast?, isC0OrSpace c = false

/-- The checks of a plain segment as one test. -/
def isPlainSegment (r : String) : Bool :=
  (r.toList.all fun c => !isSlash c && c != '?' && c != '#' && !isTabOrNewline c) &&
    !hasEscape r.toList && r != "." && r != ".." &&
    r.toList.getLast?.all fun c => !isC0OrSpace c

theorem plainSegment_iff (r : String) : PlainSegment r ↔ isPlainSegment r = true := by
  simp only [isPlainSegment, Bool.and_eq_true, List.all_eq_true,
    bne_iff_ne, ne_eq, Option.all_eq_true_iff_get, Bool.not_eq_eq_eq_not, Bool.not_true]
  constructor
  · rintro ⟨hd, he, ⟨h1, h2⟩, hl⟩
    refine ⟨⟨⟨⟨fun c hc => ?_, he⟩, h1⟩, h2⟩, fun hs => ?_⟩
    · obtain ⟨a, b, c', d⟩ := hd c hc
      simp [a, b, c', d]
    · have := hl _ (Option.get_mem hs)
      simpa using this
  · rintro ⟨⟨⟨⟨hd, he⟩, h1⟩, h2⟩, hl⟩
    refine ⟨fun c hc => ?_, he, ⟨h1, h2⟩, fun c hc => ?_⟩
    · have := hd c hc
      simp_all
    · have := hl (by simp [Option.mem_def.mp hc])
      simpa [Option.mem_def.mp hc] using this

instance (r : String) : Decidable (PlainSegment r) :=
  decidable_of_iff _ (plainSegment_iff r).symm

namespace PlainSegment

variable {r : String} (hr : PlainSegment r)
include hr

theorem percentDecode_encode : percentDecode (encode pathSet r.toList) =
    r.toList.flatMap String.utf8EncodeChar :=
  Url.percentDecode_encode hr.no_escape

theorem not_dots : isSingleDot (encode pathSet r.toList) = false ∧
    isDoubleDot (encode pathSet r.toList) = false := by
  have hdec := hr.percentDecode_encode
  have hofList : ∀ l : List Char, r.toList = l → r = String.ofList l := fun l hl => by
    rw [← hl, String.ofList_toList]
  constructor
  · cases hs : isSingleDot (encode pathSet r.toList)
    · rfl
    · rw [percentDecode_of_isSingleDot hs] at hdec
      exact absurd (hofList ['.'] (eq_of_utf8 (hdec.symm.trans rfl))) hr.not_dot.1
  · cases hd : isDoubleDot (encode pathSet r.toList)
    · rfl
    · rw [percentDecode_of_isDoubleDot hd] at hdec
      exact absurd (hofList ['.', '.'] (eq_of_utf8 (hdec.symm.trans rfl))) hr.not_dot.2

theorem ends_nothing : ∀ c ∈ r.toList, isSlash c = false ∧ c ≠ '?' ∧ c ≠ '#' := fun c hc =>
  ⟨(hr.no_delimiter c hc).1, (hr.no_delimiter c hc).2.1, (hr.no_delimiter c hc).2.2.1⟩

theorem pathState_eq (path : List String) :
    pathState path [] r.toList = (path ++ [String.ofList (encode pathSet r.toList)], []) := by
  have h : pathState path [] (r.toList ++ []) =
      pathState path ([] ++ encode pathSet r.toList) [] := pathState_plain hr.ends_nothing []
  rw [List.append_nil] at h
  rw [h, List.nil_append, pathState, endSegment_of_not_dot hr.not_dots.1 hr.not_dots.2]

theorem pathState_slash (path : List String) (rest : List Char) :
    pathState path [] (r.toList ++ '/' :: rest) =
      pathState (path ++ [String.ofList (encode pathSet r.toList)]) [] rest := by
  rw [pathState_plain hr.ends_nothing, List.nil_append, pathState,
    if_pos (show isSlash '/' = true from rfl), endSegment_of_not_dot hr.not_dots.1 hr.not_dots.2]

end PlainSegment

/-! ## Plain paths -/

def segmentsText : List String → List Char
  | [] => []
  | [r] => '/' :: r.toList
  | r :: rest => '/' :: (r.toList ++ segmentsText rest)

/-- What the URL Standard makes of an origin followed by plain segments: the origin, the segments
percent-encoded by the path set, and no query or fragment. -/
structure Parser.ReadsPlainPaths (P : Parser) : Prop where
  plain_path : ∀ (o : Origin) (segs : List String), segs ≠ [] → (∀ r ∈ segs, PlainSegment r) →
    P.parse (o.text ++ String.ofList (segmentsText segs)) =
      some { scheme := o.scheme, authority := o.authority,
             path := segs.map fun r => String.ofList (encode pathSet r.toList),
             query := none, fragment := none }

theorem segmentsText_cons {r : String} {rest : List String} (h : rest ≠ []) :
    segmentsText (r :: rest) = '/' :: (r.toList ++ segmentsText rest) := by
  cases rest with
  | nil => exact absurd rfl h
  | cons _ _ => rfl

theorem segmentsText_slash {segs : List String} (h : segs ≠ []) :
    ∃ tail, segmentsText segs = '/' :: tail := by
  rcases segs with _ | ⟨r, _ | ⟨r', rest⟩⟩
  · exact absurd rfl h
  · exact ⟨_, rfl⟩
  · exact ⟨_, rfl⟩

theorem mem_segmentsText {segs : List String} {c : Char} (hc : c ∈ segmentsText segs) :
    c = '/' ∨ ∃ r ∈ segs, c ∈ r.toList := by
  induction segs with
  | nil => simp [segmentsText] at hc
  | cons r rest ih =>
    rcases rest with _ | ⟨r', rest⟩
    · simp only [segmentsText, List.mem_cons] at hc
      rcases hc with rfl | hc
      · exact .inl rfl
      · exact .inr ⟨r, List.mem_cons_self, hc⟩
    · rw [segmentsText_cons (List.cons_ne_nil _ _)] at hc
      simp only [List.mem_cons, List.mem_append] at hc
      rcases hc with rfl | hc | hc
      · exact .inl rfl
      · exact .inr ⟨r, List.mem_cons_self, hc⟩
      · rcases ih hc with h | ⟨r'', hr'', hc⟩
        · exact .inl h
        · exact .inr ⟨r'', List.mem_cons_of_mem _ hr'', hc⟩

theorem getLast?_segmentsText {segs : List String} {c : Char}
    (hc : c ∈ (segmentsText segs).getLast?) : c = '/' ∨ ∃ r ∈ segs, c ∈ r.toList.getLast? := by
  induction segs with
  | nil => simp [segmentsText] at hc
  | cons r rest ih =>
    rcases rest with _ | ⟨r', rest⟩
    · rw [segmentsText, List.getLast?_cons] at hc
      cases hl : r.toList.getLast? with
      | none =>
        simp only [hl, Option.getD_none, Option.mem_def, Option.some.injEq] at hc
        exact .inl hc.symm
      | some d =>
        simp only [hl, Option.getD_some, Option.mem_def, Option.some.injEq] at hc
        exact .inr ⟨r, List.mem_cons_self, by rw [hl, hc]; rfl⟩
    · -- the rest is not empty, so its text ends the whole
      obtain ⟨tail, htail⟩ := segmentsText_slash (List.cons_ne_nil r' rest)
      rw [segmentsText_cons (List.cons_ne_nil _ _), List.getLast?_cons,
        List.getLast?_append_of_ne_nil _ (by simp [htail])] at hc
      have hlast : (segmentsText (r' :: rest)).getLast?.isSome := by simp [htail]
      obtain ⟨d, hd⟩ := Option.isSome_iff_exists.1 hlast
      rw [hd, Option.getD_some] at hc
      rcases ih (by rw [hd]; exact hc) with h | ⟨r'', hr'', hc'⟩
      · exact .inl h
      · exact .inr ⟨r'', List.mem_cons_of_mem _ hr'', hc'⟩

theorem pathState_segments {segs : List String} (h : ∀ r ∈ segs, PlainSegment r)
    (hne : segs ≠ []) (path : List String) :
    pathState path [] (segmentsText segs).tail =
      (path ++ segs.map fun r => String.ofList (encode pathSet r.toList), []) := by
  induction segs generalizing path with
  | nil => exact absurd rfl hne
  | cons r rest ih =>
    have hr := h r List.mem_cons_self
    rcases rest with _ | ⟨r', rest⟩
    · simp [segmentsText, hr.pathState_eq]
    · obtain ⟨tail, htail⟩ := segmentsText_slash (List.cons_ne_nil r' rest)
      have hrest := ih (fun r'' hr'' => h r'' (List.mem_cons_of_mem _ hr''))
        (List.cons_ne_nil _ _) (path ++ [String.ofList (encode pathSet r.toList)])
      rw [htail, List.tail_cons] at hrest
      rw [segmentsText_cons (List.cons_ne_nil _ _), List.tail_cons, htail, hr.pathState_slash,
        hrest]
      simp

theorem standard_readsPlainPaths : standard.ReadsPlainPaths := by
  refine ⟨fun o segs hne h => ?_⟩
  obtain ⟨tail, htail⟩ := segmentsText_slash hne
  have hpath := pathState_segments h hne []
  rw [htail, List.tail_cons] at hpath
  have hdrop : ∀ c ∈ tail, isTabOrNewline c = false := by
    intro c hc
    rcases mem_segmentsText (htail ▸ List.mem_cons_of_mem '/' hc) with rfl | ⟨r, hr, hc⟩
    · rfl
    · exact ((h r hr).no_delimiter c hc).2.2.2
  have hlast : ∀ c ∈ tail.getLast?, isC0OrSpace c = false := by
    intro c hc
    have hc' : c ∈ (segmentsText segs).getLast? := by
      rw [htail, List.getLast?_cons]
      simp only [Option.mem_def] at hc
      simp [hc]
    rcases getLast?_segmentsText hc' with rfl | ⟨r, hr, hc⟩
    · rfl
    · exact (h r hr).last c hc
  rw [htail]
  show parse _ = _
  rw [parse_origin_append o hdrop hlast, hpath]
  rfl

end RosterSync.Url
