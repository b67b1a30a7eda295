import Mathlib
import RosterSync.Token

/-!
Correlation tokens: what comes back from the state of a contact way.

The codec takes base64 and UUID parsing from its libraries, and what it relies on them for is
`Codecs.Lawful`. The libraries the program links meet it (`standard_lawful`):

Base64: decoding accepts exactly the texts encoding writes and gives back the bytes written
(`decode_eq_some_iff`); every three bytes take four characters (`length_encode`), all ASCII.

Hex: the bytes read from hex digits, written back two digits a byte, are those digits in
lowercase (`hexBytes_eq_some`), and every even run of hex digits is read.

Tokens, over any lawful libraries: a UUID (32 hex digits once its dashes are removed) travels as
its sixteen bytes in base64 behind the prefix, 26 bytes in all, and comes back in its lowercase
8-4-4-4-12 form; anything else travels as it is behind the prefix and comes back as it is, unless
it is itself the base64 text of sixteen bytes: then it comes back as the dashed form of those
bytes (`token_codec_round_trip`, `payload_text_comes_back_as_uuid`). So the round trip gives an
identifier back exactly when it is canonical (`decode_encode_eq_self_iff`), and never gives back
an empty one for a nonempty one.
-/

namespace RosterSync.Text.Base64

theorem value?_symbol : ∀ n < 64, value? (symbol n) = some n := by decide

theorem symbol_of_value? {c : Char} {n : Nat} (h : value? c = some n) :
    n < 64 ∧ symbol n = c := by
  have hc : Char.ofNat c.toNat = c := Char.ofNat_toNat c
  simp only [value?] at h
  split at h
  · cases h
    refine ⟨by omega, ?_⟩
    rw [symbol, if_pos (by omega), show 65 + (c.toNat - 65) = c.toNat by omega, hc]
  split at h
  · cases h
    refine ⟨by omega, ?_⟩
    rw [symbol, if_neg (by omega), if_pos (by omega),
      show 97 + (c.toNat - 97 + 26) - 26 = c.toNat by omega, hc]
  split at h
  · cases h
    refine ⟨by omega, ?_⟩
    rw [symbol, if_neg (by omega), if_neg (by omega), if_pos (by omega),
      show 48 + (c.toNat - 48 + 52) - 52 = c.toNat by omega, hc]
  split at h
  · cases h
    subst_vars
    exact ⟨by omega, rfl⟩
  split at h
  · cases h
    subst_vars
    exact ⟨by omega, rfl⟩
  · cases h

theorem map_symbol_of_mapM {cs : List Char} {vs : List Nat} (h : cs.mapM value? = some vs) :
    (∀ v ∈ vs, v < 64) ∧ vs.map symbol = cs := by
  induction cs generalizing vs with
  | nil =>
    cases h
    exact ⟨by simp, rfl⟩
  | cons c cs ih =>
    simp only [List.mapM_cons, Option.bind_eq_bind, Option.bind_eq_some_iff, Option.pure_def,
      Option.some.injEq] at h
    obtain ⟨v, hv, vs', hvs', rfl⟩ := h
    obtain ⟨hlt, hsym⟩ := symbol_of_value? hv
    obtain ⟨hlts, hsyms⟩ := ih hvs'
    refine ⟨?_, by simp [hsym, hsyms]⟩
    simp only [List.mem_cons, forall_eq_or_imp]
    exact ⟨hlt, hlts⟩

theorem mapM_map_symbol {vs : List Nat} (h : ∀ v ∈ vs, v < 64) :
    (vs.map symbol).mapM value? = some vs := by
  induction vs with
  | nil => rfl
  | cons v vs ih =>
    simp only [List.mem_cons, forall_eq_or_imp] at h
    simp [List.mapM_cons, value?_symbol v h.1, ih h.2]

theorem encode_of_decodeValues {vs bytes : List Nat} (h : decodeValues vs = some bytes)
    (hvs : ∀ v ∈ vs, v < 64) : (∀ b ∈ bytes, b < 256) ∧ encode bytes = vs.map symbol := by
  fun_induction decodeValues vs generalizing bytes with
  | case1 a b c d rest w =>
    rename_i ih
    simp only [List.mem_cons, forall_eq_or_imp] at hvs
    obtain ⟨ha, hb, hc, hd, hrest⟩ := hvs
    obtain ⟨bytes', hbytes', rfl⟩ := Option.map_eq_some_iff.mp h
    obtain ⟨hlt, henc⟩ := ih hbytes' hrest
    have hw : w = ((a * 64 + b) * 64 + c) * 64 + d := rfl
    have hW : w / 65536 * 65536 + w / 256 % 256 * 256 + w % 256 = w := by omega
    have h₁ : w / 262144 = a := by omega
    have h₂ : w / 4096 % 64 = b := by omega
    have h₃ : w / 64 % 64 = c := by omega
    have h₄ : w % 64 = d := by omega
    refine ⟨?_, ?_⟩
    · simp only [List.mem_cons, forall_eq_or_imp]
      exact ⟨by omega, by omega, by omega, hlt⟩
    · simp only [encode, hW, h₁, h₂, h₃, h₄, henc, List.map_cons]
  | case2 a b c hc4 =>
    cases h
    simp only [List.mem_cons, List.not_mem_nil, or_false, forall_eq_or_imp, forall_eq] at hvs ⊢
    have h₁ : ((a * 64 + b) / 16 * 1024 + ((a * 64 + b) % 16 * 16 + c / 4) * 4) / 4096 = a := by
      omega
    have h₂ : ((a * 64 + b) / 16 * 1024 + ((a * 64 + b) % 16 * 16 + c / 4) * 4) / 64 % 64 = b := by
      omega
    have h₃ : ((a * 64 + b) / 16 * 1024 + ((a * 64 + b) % 16 * 16 + c / 4) * 4) % 64 = c := by
      omega
    exact ⟨⟨by omega, by omega⟩, by simp only [encode, h₁, h₂, h₃, List.map_cons, List.map_nil]⟩
  | case4 a b hb16 =>
    cases h
    simp only [List.mem_cons, List.not_mem_nil, or_false, forall_eq_or_imp, forall_eq] at hvs ⊢
    have h₁ : (a * 64 + b) / 16 / 4 = a := by omega
    have h₂ : (a * 64 + b) / 16 % 4 * 16 = b := by omega
    exact ⟨by omega, by simp only [encode, h₁, h₂, List.map_cons, List.map_nil]⟩
  | case7 =>
    cases h
    exact ⟨by simp, rfl⟩
  | case3 | case5 | case6 => cases h

theorem encode_eq_map_symbol {bytes : List Nat} (h : ∀ b ∈ bytes, b < 256) :
    ∃ vs, (∀ v ∈ vs, v < 64) ∧ encode bytes = vs.map symbol ∧ decodeValues vs = some bytes := by
  fun_induction encode bytes with
  | case1 a b c rest w ih =>
    simp only [List.mem_cons, forall_eq_or_imp] at h
    obtain ⟨ha, hb, hc, hrest⟩ := h
    obtain ⟨vs, hlt, henc, hdec⟩ := ih hrest
    have hw : w = a * 65536 + b * 256 + c := rfl
    refine ⟨w / 262144 :: w / 4096 % 64 :: w / 64 % 64 :: w % 64 :: vs, ?_, ?_, ?_⟩
    · simp only [List.mem_cons, forall_eq_or_imp]
      exact ⟨by omega, by omega, by omega, by omega, hlt⟩
    · simp only [henc, List.map_cons]
    · have hW : ((w / 262144 * 64 + w / 4096 % 64) * 64 + w / 64 % 64) * 64 + w % 64 = w := by
        omega
      have h₁ : w / 65536 = a := by omega
      have h₂ : w / 256 % 256 = b := by omega
      have h₃ : w % 256 = c := by omega
      simp only [decodeValues, hW, h₁, h₂, h₃, hdec, Option.map_some]
  | case2 a b w =>
    simp only [List.mem_cons, List.not_mem_nil, or_false, forall_eq_or_imp, forall_eq] at h
    have hw : w = a * 1024 + b * 4 := rfl
    refine ⟨[w / 4096, w / 64 % 64, w % 64], ?_, rfl, ?_⟩
    · simp only [List.mem_cons, List.not_mem_nil, or_false, forall_eq_or_imp, forall_eq]
      exact ⟨by omega, by omega, by omega⟩
    · have h₁ : (w / 4096 * 64 + w / 64 % 64) / 16 = a := by omega
      have h₂ : (w / 4096 * 64 + w / 64 % 64) % 16 * 16 + w % 64 / 4 = b := by omega
      simp only [decodeValues, show w % 64 % 4 = 0 by omega, h₁, h₂, if_true]
  | case3 a =>
    simp only [List.mem_cons, List.not_mem_nil, or_false, forall_eq] at h
    refine ⟨[a / 4, a % 4 * 16], ?_, rfl, ?_⟩
    · simp only [List.mem_cons, List.not_mem_nil, or_false, forall_eq_or_imp, forall_eq]
      exact ⟨by omega, by omega⟩
    · have h₁ : (a / 4 * 64 + a % 4 * 16) / 16 = a := by omega
      simp only [decodeValues, show a % 4 * 16 % 16 = 0 by omega, h₁, if_true]
  | case4 => exact ⟨[], by simp, rfl, rfl⟩

theorem decode_eq_some_iff {cs : List Char} {bytes : List Nat} :
    decode cs = some bytes ↔ (∀ b ∈ bytes, b < 256) ∧ encode bytes = cs := by
  constructor
  · intro h
    obtain ⟨vs, hvs, hdec⟩ := Option.bind_eq_some_iff.mp h
    obtain ⟨hlt, hsym⟩ := map_symbol_of_mapM hvs
    obtain ⟨hbytes, henc⟩ := encode_of_decodeValues hdec hlt
    exact ⟨hbytes, henc.trans hsym⟩
  · rintro ⟨hbytes, rfl⟩
    obtain ⟨vs, hlt, henc, hdec⟩ := encode_eq_map_symbol hbytes
    rw [decode, henc, mapM_map_symbol hlt]
    exact hdec

theorem decode_encode {bytes : List Nat} (h : ∀ b ∈ bytes, b < 256) :
    decode (encode bytes) = some bytes :=
  decode_eq_some_iff.mpr ⟨h, rfl⟩

theorem length_encode (bytes : List Nat) : (encode bytes).length = (4 * bytes.length + 2) / 3 := by
  fun_induction encode bytes with
  | case1 a b c rest w ih =>
    simp only [List.length_cons, ih]
    omega
  | case2 | case3 | case4 => simp

theorem utf8Size_symbol : ∀ n < 64, (symbol n).utf8Size = 1 := by decide

theorem utf8Size_of_mem_encode {bytes : List Nat} (h : ∀ b ∈ bytes, b < 256) :
    ∀ c ∈ encode bytes, c.utf8Size = 1 := by
  obtain ⟨vs, hlt, henc, -⟩ := encode_eq_map_symbol h
  intro c hc
  rw [henc] at hc
  obtain ⟨v, hv, rfl⟩ := List.mem_map.mp hc
  exact utf8Size_symbol v (hlt v hv)

end RosterSync.Text.Base64

namespace RosterSync.Token

theorem toNat_ofNat_of_lt {n : Nat} (h : n < 55296) : (Char.ofNat n).toNat = n := by
  simp [Char.ofNat, Char.ofNatAux, Nat.isValidChar, Char.toNat, show n < 55296 from h]

theorem toNat_toLower (c : Char) :
    c.toLower.toNat = if 65 ≤ c.toNat ∧ c.toNat ≤ 90 then c.toNat + 32 else c.toNat := by
  have hval : c.val.toNat = c.toNat := rfl
  have hlt : c.toNat < 2 ^ 32 := c.val.toNat_lt
  have hA : 'A'.val.toNat = 65 := rfl
  have hZ : 'Z'.val.toNat = 90 := rfl
  have hd : ('a'.val - 'A'.val).toNat = 32 := rfl
  unfold Char.toLower
  split <;> split
  · simp only [Char.toNat_mk, UInt32.toNat_add, hval, hd]
    omega
  · rename_i h₁ h₂
    simp only [ge_iff_le, UInt32.le_iff_toNat_le, hval, hA, hZ] at h₁
    omega
  · rename_i h₁ h₂
    simp only [ge_iff_le, UInt32.le_iff_toNat_le, hval, hA, hZ] at h₁
    omega
  · rfl

theorem isHexDigit_iff (c : Char) : c.isHexDigit ↔
    (48 ≤ c.toNat ∧ c.toNat ≤ 57) ∨ (97 ≤ c.toNat ∧ c.toNat ≤ 102) ∨
      (65 ≤ c.toNat ∧ c.toNat ≤ 70) := by
  simp [Char.isHexDigit, Char.isDigit, UInt32.le_iff_toNat_le, ← Char.toNat_val, or_assoc]

theorem hexValue?_eq (c : Char) : hexValue? c =
    if 48 ≤ c.toNat ∧ c.toNat ≤ 57 then some (c.toNat - 48)
    else if 97 ≤ c.toNat ∧ c.toNat ≤ 102 then some (c.toNat - 87)
    else if 65 ≤ c.toNat ∧ c.toNat ≤ 70 then some (c.toNat - 55) else none := by
  simp only [hexValue?, Char.le_def, UInt32.le_iff_toNat_le, Char.toNat_val]
  rfl

theorem toNat_hexChar (v : Nat) (hv : v < 16) :
    (if v < 10 then Char.ofNat (48 + v) else Char.ofNat (87 + v)).toNat =
      if v < 10 then 48 + v else 87 + v := by
  split <;> exact toNat_ofNat_of_lt (by omega)

theorem hexValue?_eq_some {c : Char} {v : Nat} (h : hexValue? c = some v) :
    c.isHexDigit ∧ v < 16 ∧
      (if v < 10 then Char.ofNat (48 + v) else Char.ofNat (87 + v)) = c.toLower := by
  rw [hexValue?_eq] at h
  have hlower := toNat_toLower c
  split_ifs at h with h₁ h₂ h₃ <;> cases h
  all_goals
    refine ⟨(isHexDigit_iff c).mpr (by omega), by omega, ?_⟩
    rw [← Char.toNat_inj, toNat_hexChar _ (by omega), hlower]
    split_ifs <;> omega

theorem isSome_hexValue? {c : Char} (h : c.isHexDigit) : (hexValue? c).isSome := by
  rw [isHexDigit_iff] at h
  rw [hexValue?_eq]
  split_ifs <;> first | rfl | omega

theorem hexBytes_eq_some {cs : List Char} {bytes : List Nat} (h : hexBytes cs = some bytes) :
    (∀ c ∈ cs, c.isHexDigit) ∧ 2 * bytes.length = cs.length ∧ (∀ b ∈ bytes, b < 256) ∧
      bytes.flatMap byteHex = cs.map Char.toLower := by
  fun_induction hexBytes cs generalizing bytes with
  | case1 a b rest ih =>
    simp only [Option.bind_eq_bind, Option.bind_eq_some_iff, Option.pure_def,
      Option.some.injEq] at h
    obtain ⟨hi, hhi, lo, hlo, tail, htail, rfl⟩ := h
    obtain ⟨ha, hhiv, hachar⟩ := hexValue?_eq_some hhi
    obtain ⟨hb, hlov, hbchar⟩ := hexValue?_eq_some hlo
    obtain ⟨hrest, hlen, hlt, hflat⟩ := ih htail
    have h₁ : (hi * 16 + lo) / 16 = hi := by omega
    have h₂ : (hi * 16 + lo) % 16 = lo := by omega
    refine ⟨?_, ?_, ?_, ?_⟩
    · simp only [List.mem_cons, forall_eq_or_imp]
      exact ⟨ha, hb, hrest⟩
    · simp only [List.length_cons]
      omega
    · simp only [List.mem_cons, forall_eq_or_imp]
      exact ⟨by omega, hlt⟩
    · simp only [List.flatMap_cons, byteHex, h₁, h₂, hachar, hbchar, hflat, List.map_cons]
      rfl
  | case2 =>
    cases h
    exact ⟨by simp, rfl, by simp, rfl⟩
  | case3 => cases h

theorem isSome_hexBytes {cs : List Char} (hhex : ∀ c ∈ cs, c.isHexDigit)
    (heven : cs.length % 2 = 0) : (hexBytes cs).isSome := by
  fun_induction hexBytes cs with
  | case1 a b rest ih =>
    simp only [List.mem_cons, forall_eq_or_imp] at hhex
    obtain ⟨ha, hb, hrest⟩ := hhex
    obtain ⟨hi, hhi⟩ := Option.isSome_iff_exists.mp (isSome_hexValue? ha)
    obtain ⟨lo, hlo⟩ := Option.isSome_iff_exists.mp (isSome_hexValue? hb)
    obtain ⟨tail, htail⟩ :=
      Option.isSome_iff_exists.mp (ih hrest (by simp only [List.length_cons] at heven; omega))
    simp [hhi, hlo, htail]
  | case2 => rfl
  | case3 => simp at heven

def undashed (raw : String) : List Char := raw.toList.filter (· ≠ '-')

/-- An identifier is a UUID when, without its dashes, it is 32 hex digits. -/
def IsUuid (raw : String) : Prop := (undashed raw).length = 32 ∧ ∀ c ∈ undashed raw, c.isHexDigit

-- decided through `List.all`, which the kernel evaluates without deep recursion
instance (raw : String) : Decidable (IsUuid raw) :=
  decidable_of_iff ((undashed raw).length = 32 ∧ (undashed raw).all Char.isHexDigit = true)
    (and_congr_right fun _ => List.all_eq_true)

/-- The lowercase 8-4-4-4-12 form of 32 hex digits. -/
def dashedLower (hex : List Char) : String :=
  let l := hex.map Char.toLower
  String.ofList (l.take 8 ++ '-' :: (l.drop 8).take 4 ++ '-' :: (l.drop 12).take 4 ++
    '-' :: (l.drop 16).take 4 ++ '-' :: l.drop 20)

section Layout

theorem hyphenated_eq_dashedLower {bytes : List Nat} {hex : List Char}
    (h : bytes.flatMap byteHex = hex.map Char.toLower) : hyphenated bytes = dashedLower hex := by
  simp only [hyphenated, dashedLower, h]

theorem length_flatMap_byteHex (bytes : List Nat) :
    (bytes.flatMap byteHex).length = 2 * bytes.length := by
  induction bytes with
  | nil => rfl
  | cons b rest ih =>
    simp only [List.flatMap_cons, List.length_append, ih, List.length_cons]
    simp only [byteHex, List.length_cons, List.length_nil]
    omega

theorem toLower_hexChar (v : Nat) (hv : v < 16) :
    (if v < 10 then Char.ofNat (48 + v) else Char.ofNat (87 + v)).toLower =
      if v < 10 then Char.ofNat (48 + v) else Char.ofNat (87 + v) := by
  rw [← Char.toNat_inj, toNat_toLower, toNat_hexChar v hv]
  split_ifs <;> omega

theorem map_toLower_flatMap_byteHex {bytes : List Nat} (h : ∀ b ∈ bytes, b < 256) :
    (bytes.flatMap byteHex).map Char.toLower = bytes.flatMap byteHex := by
  induction bytes with
  | nil => rfl
  | cons b rest ih =>
    simp only [List.mem_cons, forall_eq_or_imp] at h
    simp only [List.flatMap_cons, List.map_append, byteHex, List.map_cons, List.map_nil,
      toLower_hexChar (b / 16) (by omega), toLower_hexChar (b % 16) (by omega), ih h.2]

theorem length_dashedLower {hex : List Char} (h : hex.length = 32) :
    (dashedLower hex).length = 36 := by
  simp only [dashedLower, String.length_ofList, List.length_append, List.length_cons,
    List.length_take, List.length_drop, List.length_map]
  omega

theorem utf8ByteSize_ofList (l : List Char) :
    (String.ofList l).utf8ByteSize = (l.map Char.utf8Size).sum := by
  induction l with
  | nil => rfl
  | cons c l ih =>
    rw [← List.singleton_append, String.ofList_append, String.utf8ByteSize_append, ih]
    simp

theorem utf8ByteSize_ofList_of_ascii {l : List Char} (h : ∀ c ∈ l, c.utf8Size = 1) :
    (String.ofList l).utf8ByteSize = l.length := by
  rw [utf8ByteSize_ofList, List.map_congr_left h, List.map_const', List.sum_replicate,
    smul_eq_mul, mul_one]

end Layout

/-- What the codec relies on its libraries for. Base64 decoding accepts exactly the texts
encoding writes and gives back the bytes written, and every three bytes take four ASCII
characters; the UUID parser reads every 32 hex digits, as the bytes that two lowercase digits
a byte write back; and the hyphenated form of sixteen bytes is their lowercase 8-4-4-4-12 form. -/
structure Codecs.Lawful (L : Codecs) : Prop where
  base64Decode_eq_some_iff : ∀ {cs bytes}, L.base64Decode cs = some bytes ↔
    (∀ b ∈ bytes, b < 256) ∧ L.base64Encode bytes = cs
  length_base64Encode : ∀ bytes, (L.base64Encode bytes).length = (4 * bytes.length + 2) / 3
  utf8Size_base64Encode : ∀ {bytes}, (∀ b ∈ bytes, b < 256) →
    ∀ c ∈ L.base64Encode bytes, c.utf8Size = 1
  isSome_uuidBytes : ∀ {cs}, cs.length = 32 → (∀ c ∈ cs, c.isHexDigit) → (L.uuidBytes cs).isSome
  uuidBytes_eq_some : ∀ {cs bytes}, cs.length = 32 → L.uuidBytes cs = some bytes →
    (∀ c ∈ cs, c.isHexDigit) ∧ (∀ b ∈ bytes, b < 256) ∧ bytes.flatMap byteHex = cs.map Char.toLower
  hyphenated_eq : ∀ {bytes hex}, bytes.length = 16 →
    bytes.flatMap byteHex = hex.map Char.toLower → L.hyphenated bytes = dashedLower hex

theorem standard_lawful : Codecs.standard.Lawful where
  base64Decode_eq_some_iff := Text.Base64.decode_eq_some_iff
  length_base64Encode := Text.Base64.length_encode
  utf8Size_base64Encode := Text.Base64.utf8Size_of_mem_encode
  isSome_uuidBytes hlen hhex := isSome_hexBytes hhex (by rw [hlen])
  uuidBytes_eq_some _ h :=
    let ⟨hhex, _, hlt, hflat⟩ := hexBytes_eq_some h
    ⟨hhex, hlt, hflat⟩
  hyphenated_eq _ h := hyphenated_eq_dashedLower h

variable {L : Codecs}

/-- `raw` is the base64 text of sixteen bytes. -/
def IsPayloadOf (L : Codecs) (raw : String) (bytes : List Nat) : Prop :=
  bytes.length = 16 ∧ (∀ b ∈ bytes, b < 256) ∧ L.base64Encode bytes = raw.toList

/-- An identifier that the round trip gives back unchanged: a UUID already in its lowercase
dashed form, or anything else that is not the base64 text of sixteen bytes. -/
def Canonical (L : Codecs) (raw : String) : Prop :=
  (IsUuid raw → raw = dashedLower (undashed raw)) ∧ ∀ bytes, ¬ IsPayloadOf L raw bytes

theorem uuidBytes?_eq (L : Codecs) (raw : String) :
    uuidBytes? L raw = if (undashed raw).length = 32 then L.uuidBytes (undashed raw) else none :=
  rfl

theorem uuidBytes?_eq_some (hL : L.Lawful) {raw : String} {bytes : List Nat}
    (h : uuidBytes? L raw = some bytes) :
    IsUuid raw ∧ bytes.length = 16 ∧ (∀ b ∈ bytes, b < 256) ∧
      bytes.flatMap byteHex = (undashed raw).map Char.toLower := by
  rw [uuidBytes?_eq] at h
  split at h
  · rename_i hlen
    obtain ⟨hhex, hlt, hflat⟩ := hL.uuidBytes_eq_some hlen h
    have hdigits : 2 * bytes.length = 32 := by
      rw [← length_flatMap_byteHex, hflat, List.length_map, hlen]
    exact ⟨⟨hlen, hhex⟩, by omega, hlt, hflat⟩
  · cases h

theorem isSome_uuidBytes? (hL : L.Lawful) {raw : String} (h : IsUuid raw) :
    (uuidBytes? L raw).isSome := by
  rw [uuidBytes?_eq, if_pos h.1]
  exact hL.isSome_uuidBytes h.1 h.2

theorem uuidBytes?_eq_none (hL : L.Lawful) {raw : String} (h : ¬ IsUuid raw) :
    uuidBytes? L raw = none := by
  cases hb : uuidBytes? L raw with
  | none => rfl
  | some bytes => exact absurd (uuidBytes?_eq_some hL hb).1 h

theorem IsPayloadOf.length (hL : L.Lawful) {raw : String} {bytes : List Nat}
    (h : IsPayloadOf L raw bytes) : raw.toList.length = 22 := by
  obtain ⟨hlen, -, hraw⟩ := h
  rw [← hraw, hL.length_base64Encode, hlen]

theorem IsUuid.not_payload (hL : L.Lawful) {raw : String} (h : IsUuid raw) (bytes : List Nat) :
    ¬ IsPayloadOf L raw bytes := fun hp => by
  have hle : (undashed raw).length ≤ raw.toList.length := List.length_filter_le _ _
  have := hp.length hL
  rw [h.1] at hle
  omega

theorem length_hyphenated (hL : L.Lawful) {bytes : List Nat} (h16 : bytes.length = 16)
    (hlt : ∀ b ∈ bytes, b < 256) : (L.hyphenated bytes).length = 36 := by
  rw [hL.hyphenated_eq h16 (map_toLower_flatMap_byteHex hlt).symm,
    length_dashedLower (by rw [length_flatMap_byteHex, h16])]

section Prefix

theorem toList_statePrefix : statePrefix.toList = ['m', 'd', 'y', ':'] := rfl

theorem length_statePrefix : statePrefix.length = 4 := rfl

theorem utf8ByteSize_prefixed (s : String) :
    (statePrefix ++ s).utf8ByteSize = 4 + s.utf8ByteSize := by
  rw [String.utf8ByteSize_append]
  rfl

theorem isCorrelationState_prefixed (s : String) : isCorrelationState (statePrefix ++ s) = true := by
  rw [isCorrelationState, String.startsWith_string_iff, String.toList_append]
  exact List.prefix_append _ _

theorem payload_prefixed (s : String) :
    (if (statePrefix ++ s).startsWith statePrefix = true then
      ((statePrefix ++ s).drop statePrefix.length).toString else statePrefix ++ s) = s := by
  have hstarts : (statePrefix ++ s).startsWith statePrefix = true := isCorrelationState_prefixed s
  rw [if_pos hstarts]
  apply String.toList_injective
  simp [toList_statePrefix, length_statePrefix]

theorem decode_prefixed_of_bytes {s : String} {bytes : List Nat}
    (h : L.base64Decode s.toList = some bytes) (hlen : bytes.length = 16) :
    decode L (statePrefix ++ s) = L.hyphenated bytes := by
  simp only [decode, payload_prefixed, h, hlen, if_true]

theorem decode_prefixed_of_not_bytes {s : String}
    (h : ∀ bytes, L.base64Decode s.toList = some bytes → bytes.length ≠ 16) :
    decode L (statePrefix ++ s) = s := by
  simp only [decode, payload_prefixed]
  split
  · rename_i bytes hbytes
    rw [if_neg (h bytes hbytes)]
  · rfl

end Prefix

theorem round_trip_uuid (hL : L.Lawful) {raw : String} (h : IsUuid raw) :
    ∃ bytes, bytes.length = 16 ∧ (∀ b ∈ bytes, b < 256) ∧
      bytes.flatMap byteHex = (undashed raw).map Char.toLower ∧
      encode L raw = statePrefix ++ String.ofList (L.base64Encode bytes) ∧
      (L.base64Encode bytes).length = 22 ∧ (encode L raw).utf8ByteSize = 26 ∧
      decode L (encode L raw) = dashedLower (undashed raw) := by
  obtain ⟨bytes, hbytes⟩ := Option.isSome_iff_exists.mp (isSome_uuidBytes? hL h)
  obtain ⟨-, hlen, hlt, hflat⟩ := uuidBytes?_eq_some hL hbytes
  have henc : encode L raw = statePrefix ++ String.ofList (L.base64Encode bytes) := by
    simp only [encode, hbytes]
  have h22 : (L.base64Encode bytes).length = 22 := by
    rw [hL.length_base64Encode, hlen]
  have hdec : L.base64Decode (String.ofList (L.base64Encode bytes)).toList = some bytes := by
    rw [String.toList_ofList]
    exact hL.base64Decode_eq_some_iff.mpr ⟨hlt, rfl⟩
  refine ⟨bytes, hlen, hlt, hflat, henc, h22, ?_, ?_⟩
  · rw [henc, utf8ByteSize_prefixed, utf8ByteSize_ofList_of_ascii (hL.utf8Size_base64Encode hlt),
      h22]
  · rw [henc, decode_prefixed_of_bytes hdec hlen]
    exact hL.hyphenated_eq hlen hflat

/-- Any other identifier travels as it is; it comes back as it is unless it reads as sixteen
base64 bytes. -/
theorem round_trip_other (hL : L.Lawful) {raw : String} (h : ¬ IsUuid raw) :
    encode L raw = statePrefix ++ raw ∧
      (∀ bytes, IsPayloadOf L raw bytes → decode L (encode L raw) = L.hyphenated bytes) ∧
      ((∀ bytes, ¬ IsPayloadOf L raw bytes) → decode L (encode L raw) = raw) := by
  have henc : encode L raw = statePrefix ++ raw := by
    simp only [encode, uuidBytes?_eq_none hL h]
  refine ⟨henc, fun bytes ⟨hlen, hlt, hraw⟩ => ?_, fun hnone => ?_⟩
  · rw [henc]
    exact decode_prefixed_of_bytes (hL.base64Decode_eq_some_iff.mpr ⟨hlt, hraw⟩) hlen
  · rw [henc]
    refine decode_prefixed_of_not_bytes fun bytes hdec hlen => hnone bytes ?_
    obtain ⟨hlt, hraw⟩ := hL.base64Decode_eq_some_iff.mp hdec
    exact ⟨hlen, hlt, hraw⟩

/-- The state of an identifier fits a contact way exactly when the identifier is a UUID or has
at most 26 bytes. -/
theorem encode_fits_iff (hL : L.Lawful) (raw : String) :
    (encode L raw).utf8ByteSize ≤ maxStateLen ↔ IsUuid raw ∨ raw.utf8ByteSize ≤ 26 := by
  by_cases h : IsUuid raw
  · obtain ⟨bytes, -, -, -, -, -, h26, -⟩ := round_trip_uuid hL h
    simp only [h26, maxStateLen, h, true_or, iff_true]
    omega
  · rw [(round_trip_other hL h).1, utf8ByteSize_prefixed, maxStateLen]
    simp only [h, false_or]
    omega

theorem isCorrelationState_encode (L : Codecs) (raw : String) :
    isCorrelationState (encode L raw) = true := by
  unfold encode
  split <;> exact isCorrelationState_prefixed _

theorem token_codec_round_trip (L : Codecs) (hL : L.Lawful) (raw : String) :
    isCorrelationState (encode L raw) = true ∧
    ((encode L raw).utf8ByteSize ≤ maxStateLen ↔ IsUuid raw ∨ raw.utf8ByteSize ≤ 26) ∧
    (IsUuid raw → ∃ bytes, bytes.length = 16 ∧ (∀ b ∈ bytes, b < 256) ∧
      bytes.flatMap byteHex = (undashed raw).map Char.toLower ∧
      encode L raw = statePrefix ++ String.ofList (L.base64Encode bytes) ∧
      (L.base64Encode bytes).length = 22 ∧ (encode L raw).utf8ByteSize = 26 ∧
      decode L (encode L raw) = dashedLower (undashed raw)) ∧
    (¬ IsUuid raw → encode L raw = statePrefix ++ raw ∧
      (∀ bytes, IsPayloadOf L raw bytes → decode L (encode L raw) = L.hyphenated bytes) ∧
      ((∀ bytes, ¬ IsPayloadOf L raw bytes) → decode L (encode L raw) = raw)) :=
  ⟨isCorrelationState_encode L raw, encode_fits_iff hL raw, round_trip_uuid hL,
    round_trip_other hL⟩

/-- The libraries the program links are lawful, and an uppercase UUID with its dashes travels in
26 bytes and comes back lowercase. -/
theorem standard_codec_round_trip :
    Codecs.standard.Lawful ∧
      (encode .standard "ABCDEF12-3456-7890-ABCD-EF1234567890").utf8ByteSize = 26 ∧
      decode .standard (encode .standard "ABCDEF12-3456-7890-ABCD-EF1234567890") =
        "abcdef12-3456-7890-abcd-ef1234567890" := by
  have huuid : IsUuid "ABCDEF12-3456-7890-ABCD-EF1234567890" := by decide
  obtain ⟨bytes, -, -, -, -, -, h26, hdec⟩ :=
    (token_codec_round_trip .standard standard_lawful _).2.2.1 huuid
  refine ⟨standard_lawful, h26, ?_⟩
  rw [hdec]
  decide

/-- Twenty-two letters `A` are no UUID, yet they are the base64 text of sixteen zero bytes. -/
theorem payload_text_comes_back_as_uuid :
    ¬ IsUuid "AAAAAAAAAAAAAAAAAAAAAA" ∧
      decode .standard (encode .standard "AAAAAAAAAAAAAAAAAAAAAA") =
        "00000000-0000-0000-0000-000000000000" ∧
      decode .standard (encode .standard "AAAAAAAAAAAAAAAAAAAAAA") ≠ "AAAAAAAAAAAAAAAAAAAAAA" := by
  have hnot : ¬ IsUuid "AAAAAAAAAAAAAAAAAAAAAA" := by decide
  have hdec : decode .standard (encode .standard "AAAAAAAAAAAAAAAAAAAAAA") =
      "00000000-0000-0000-0000-000000000000" := by
    rw [(round_trip_other standard_lawful hnot).2.1 (List.replicate 16 0) ⟨rfl, by simp, by decide⟩]
    decide
  exact ⟨hnot, hdec, by rw [hdec]; decide⟩

theorem decode_encode_eq_self_iff (hL : L.Lawful) (raw : String) :
    decode L (encode L raw) = raw ↔ Canonical L raw := by
  by_cases hu : IsUuid raw
  · obtain ⟨bytes, -, -, -, -, -, -, hdec⟩ := round_trip_uuid hL hu
    rw [hdec, eq_comm]
    exact ⟨fun h => ⟨fun _ => h, hu.not_payload hL⟩, fun h => h.1 hu⟩
  · obtain ⟨-, hpay, hother⟩ := round_trip_other hL hu
    by_cases hp : ∃ bytes, IsPayloadOf L raw bytes
    · obtain ⟨bytes, hb⟩ := hp
      have hne : L.hyphenated bytes ≠ raw := fun heq => by
        have h36 := length_hyphenated hL hb.1 hb.2.1
        have h22 := hb.length hL
        rw [heq, ← String.length_toList] at h36
        omega
      rw [hpay bytes hb]
      exact ⟨fun h => absurd h hne, fun h => absurd hb (h.2 bytes)⟩
    · have hnone := not_exists.mp hp
      exact ⟨fun _ => ⟨fun h => absurd h hu, hnone⟩, fun _ => hother hnone⟩

theorem decode_encode_ne_empty (hL : L.Lawful) {raw : String} (h : raw ≠ "") :
    decode L (encode L raw) ≠ "" := by
  intro hempty
  have hlen : (decode L (encode L raw)).length = 0 := by rw [hempty]; rfl
  by_cases hu : IsUuid raw
  · obtain ⟨bytes, -, -, -, -, -, -, hdec⟩ := round_trip_uuid hL hu
    rw [hdec, length_dashedLower hu.1] at hlen
    cases hlen
  · obtain ⟨-, hpay, hother⟩ := round_trip_other hL hu
    by_cases hp : ∃ bytes, IsPayloadOf L raw bytes
    · obtain ⟨bytes, hb⟩ := hp
      rw [hpay bytes hb, length_hyphenated hL hb.1 hb.2.1] at hlen
      cases hlen
    · exact h (hother (not_exists.mp hp) ▸ hempty)

end RosterSync.Token
