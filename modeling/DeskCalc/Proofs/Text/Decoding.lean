import DeskCalc.Text.ByteOrder

/-! # Decoding is the inverse of encoding

A byte sequence is decoded to some characters if and only if it is their encoding.

* `Utf8.encode_one`, `encode_two`, `encode_three`, `encode_four`: the bytes that decoding takes for a character are the
  encoding of this character.
* `Utf8.opening_two`, `opening_three`, `opening_four`, `opening_none`: what a first byte promises.
* `Utf8.decodeFrom_two_iff`, `decodeFrom_three_iff`, `decodeFrom_four_iff`: how a character of several bytes is decoded.
* `Utf8.eq_encoding_of_decodeFrom`, `decodeFrom_encoding`, `decode_eq_ok_iff`: what is decoded.
* `Utf8.text?`: the string of a byte sequence, if it is valid. `Utf8.decode_eq_ok_iff_text?`, `decode_eq_error_iff`:
  validity is what decoding asks.
-/

namespace DeskCalc.Text.Utf8
set_option autoImplicit false

/-! ## Encoding -/

theorem bytes_ofList (cs : List Char) : bytes (String.ofList cs) = cs.flatMap String.utf8EncodeChar := by
  simp [bytes, List.utf8Encode]

/-- A byte that follows the first one of a character. -/
def Continues (b : UInt8) : Prop := 0x80 ≤ b.toNat ∧ b.toNat ≤ 0xBF

theorem val_ofNat {n : Nat} (h : n.isValidChar) : (Char.ofNat n).val.toNat = n := by
  rw [Char.ofNat, dif_pos h]
  rfl

theorem ofNat_eq {n : Nat} {b : UInt8} (h : n = b.toNat) : UInt8.ofNat n = b := by
  rw [h, UInt8.ofNat_toNat]

theorem encode_one {a : UInt8} (ha : a.toNat < 0x80) : String.utf8EncodeChar (Char.ofNat a.toNat) = [a] := by
  have hval := val_ofNat (n := a.toNat) (.inl (by omega))
  rw [String.utf8EncodeChar, hval, if_pos (by omega), UInt8.ofNat_toNat]

theorem encode_two {a b : UInt8} (ha : 0xC2 ≤ a.toNat ∧ a.toNat ≤ 0xDF) (hb : Continues b) :
    String.utf8EncodeChar (Char.ofNat (64 * (a.toNat - 0xC0) + (b.toNat - 0x80))) = [a, b] := by
  obtain ⟨hb, hb'⟩ := hb
  generalize hv : 64 * (a.toNat - 0xC0) + (b.toNat - 0x80) = v
  have hval := val_ofNat (n := v) (.inl (by omega))
  rw [String.utf8EncodeChar, hval, if_neg (by omega), if_pos (by omega)]
  have h1 : UInt8.ofNat (v / 64 % 0x20 + 0xc0) = a := ofNat_eq (by omega)
  have h2 : UInt8.ofNat (v % 0x40 + 0x80) = b := ofNat_eq (by omega)
  rw [h1, h2]

/-- The bounds of the second byte leave out what is too small for three bytes, and the surrogates. -/
theorem encode_three {a b c : UInt8} (ha : 0xE0 ≤ a.toNat ∧ a.toNat ≤ 0xEF) (hb : Continues b) (hc : Continues c)
    (hlow : a.toNat = 0xE0 → 0xA0 ≤ b.toNat) (hhigh : a.toNat = 0xED → b.toNat ≤ 0x9F) :
    String.utf8EncodeChar (Char.ofNat (64 * (64 * (a.toNat - 0xE0) + (b.toNat - 0x80)) + (c.toNat - 0x80))) =
      [a, b, c] := by
  obtain ⟨hb, hb'⟩ := hb
  obtain ⟨hc, hc'⟩ := hc
  generalize hv : 64 * (64 * (a.toNat - 0xE0) + (b.toNat - 0x80)) + (c.toNat - 0x80) = v
  have hval := val_ofNat (n := v) (by
    rw [Nat.isValidChar]
    omega)
  rw [String.utf8EncodeChar, hval, if_neg (by omega), if_neg (by omega), if_pos (by omega)]
  have h1 : UInt8.ofNat (v / 4096 % 0x10 + 0xe0) = a := ofNat_eq (by omega)
  have h2 : UInt8.ofNat (v / 64 % 0x40 + 0x80) = b := ofNat_eq (by omega)
  have h3 : UInt8.ofNat (v % 0x40 + 0x80) = c := ofNat_eq (by omega)
  rw [h1, h2, h3]

/-- The bounds of the second byte leave out what is too small for four bytes, and what no plane has. -/
theorem encode_four {a b c d : UInt8} (ha : 0xF0 ≤ a.toNat ∧ a.toNat ≤ 0xF4) (hb : Continues b) (hc : Continues c)
    (hd : Continues d) (hlow : a.toNat = 0xF0 → 0x90 ≤ b.toNat) (hhigh : a.toNat = 0xF4 → b.toNat ≤ 0x8F) :
    String.utf8EncodeChar (Char.ofNat (64 * (64 * (64 * (a.toNat - 0xF0) + (b.toNat - 0x80)) + (c.toNat - 0x80)) +
      (d.toNat - 0x80))) = [a, b, c, d] := by
  obtain ⟨hb, hb'⟩ := hb
  obtain ⟨hc, hc'⟩ := hc
  obtain ⟨hd, hd'⟩ := hd
  generalize hv : 64 * (64 * (64 * (a.toNat - 0xF0) + (b.toNat - 0x80)) + (c.toNat - 0x80)) + (d.toNat - 0x80) = v
  have hval := val_ofNat (n := v) (by
    rw [Nat.isValidChar]
    omega)
  rw [String.utf8EncodeChar, hval, if_neg (by omega), if_neg (by omega), if_neg (by omega)]
  have h1 : UInt8.ofNat (v / 262144 % 0x08 + 0xf0) = a := ofNat_eq (by omega)
  have h2 : UInt8.ofNat (v / 4096 % 0x40 + 0x80) = b := ofNat_eq (by omega)
  have h3 : UInt8.ofNat (v / 64 % 0x40 + 0x80) = c := ofNat_eq (by omega)
  have h4 : UInt8.ofNat (v % 0x40 + 0x80) = d := ofNat_eq (by omega)
  rw [h1, h2, h3, h4]

/-! ## First bytes -/

theorem opening_two (i : Nat) {a : Nat} (ha : 0xC2 ≤ a ∧ a ≤ 0xDF) :
    opening i a = some ⟨i, 1, 1, 0x80, 0xBF, a - 0xC0⟩ := by
  simp [opening, ha]

theorem opening_three (i : Nat) {a : Nat} (ha : 0xE0 ≤ a ∧ a ≤ 0xEF) :
    opening i a = some ⟨i, 1, 2, if a = 0xE0 then 0xA0 else 0x80, if a = 0xED then 0x9F else 0xBF, a - 0xE0⟩ := by
  have hnot : ¬(0xC2 ≤ a ∧ a ≤ 0xDF) := by omega
  by_cases he0 : a = 0xE0
  · simp [opening, he0]
  · by_cases hed : a = 0xED
    · simp [opening, hed]
    · simp only [opening, Bool.and_eq_true, decide_eq_true_eq, hnot, he0, hed, if_false]
      rw [if_pos (by omega)]

theorem opening_four (i : Nat) {a : Nat} (ha : 0xF0 ≤ a ∧ a ≤ 0xF4) :
    opening i a = some ⟨i, 1, 3, if a = 0xF0 then 0x90 else 0x80, if a = 0xF4 then 0x8F else 0xBF, a - 0xF0⟩ := by
  have hcases : a = 0xF0 ∨ a = 0xF1 ∨ a = 0xF2 ∨ a = 0xF3 ∨ a = 0xF4 := by omega
  rcases hcases with rfl | rfl | rfl | rfl | rfl <;> rfl

theorem opening_none (i : Nat) {a : Nat} (ha : a < 0xC2 ∨ 0xF4 < a) : opening i a = none := by
  simp only [opening, Bool.and_eq_true, decide_eq_true_eq]
  repeat rw [if_neg (by omega)]

/-! ## Characters -/

theorem map_cons_eq_ok_iff {x : Except Invalid (List Char)} {c : Char} {cs : List Char} :
    (c :: ·) <$> x = .ok cs ↔ ∃ rest, cs = c :: rest ∧ x = .ok rest := by
  cases x with
  | error e =>
    constructor
    · intro h
      cases h
    · intro ⟨_, _, h⟩
      cases h
  | ok rest =>
    constructor
    · intro h
      cases h
      exact ⟨rest, rfl, rfl⟩
    · intro ⟨_, hcs, h⟩
      cases h
      rw [hcs]
      rfl

theorem decodeFrom_last_iff {i : Nat} {p : Partial} (howed : p.owed = 1) {bs : List UInt8} {cs : List Char} :
    decodeFrom i (some p) bs = .ok cs ↔ ∃ b rest cs', bs = b :: rest ∧ (p.low ≤ b.toNat ∧ b.toNat ≤ p.high) ∧
      cs = Char.ofNat (64 * p.value + (b.toNat - 0x80)) :: cs' ∧ decodeFrom (i + 1) none rest = .ok cs' := by
  cases bs with
  | nil => simp [decodeFrom]
  | cons b rest =>
    simp only [decodeFrom, Bool.and_eq_true, decide_eq_true_eq, howed, if_true]
    constructor
    · intro h
      split at h
      · next hb =>
        obtain ⟨cs', hcs, hrest⟩ := map_cons_eq_ok_iff.mp h
        exact ⟨b, rest, cs', rfl, hb, hcs, hrest⟩
      · cases h
    · intro ⟨_, _, cs', hbs, hb, hcs, hrest⟩
      cases hbs
      rw [if_pos hb]
      exact map_cons_eq_ok_iff.mpr ⟨cs', hcs, hrest⟩

theorem decodeFrom_more_iff {i : Nat} {p : Partial} (howed : p.owed ≠ 1) {bs : List UInt8} {cs : List Char} :
    decodeFrom i (some p) bs = .ok cs ↔ ∃ b rest, bs = b :: rest ∧ (p.low ≤ b.toNat ∧ b.toNat ≤ p.high) ∧
      decodeFrom (i + 1) (some ⟨p.start, p.taken + 1, p.owed - 1, 0x80, 0xBF, 64 * p.value + (b.toNat - 0x80)⟩) rest =
        .ok cs := by
  cases bs with
  | nil => simp [decodeFrom]
  | cons b rest =>
    simp only [decodeFrom, Bool.and_eq_true, decide_eq_true_eq, howed, if_false]
    constructor
    · intro h
      split at h
      · next hb => exact ⟨b, rest, rfl, hb, h⟩
      · cases h
    · intro ⟨_, _, hbs, hb, hrest⟩
      cases hbs
      rw [if_pos hb]
      exact hrest

theorem decodeFrom_one_iff {i : Nat} {a : UInt8} (ha : a.toNat < 0x80) {bs : List UInt8} {cs : List Char} :
    decodeFrom i none (a :: bs) = .ok cs ↔
      ∃ cs', cs = Char.ofNat a.toNat :: cs' ∧ decodeFrom (i + 1) none bs = .ok cs' := by
  rw [decodeFrom, if_pos ha, map_cons_eq_ok_iff]

theorem decodeFrom_opening {i : Nat} {a : UInt8} {p : Partial} (ha : 0x80 ≤ a.toNat) (hp : opening i a.toNat = some p)
    (bs : List UInt8) : decodeFrom i none (a :: bs) = decodeFrom (i + 1) (some p) bs := by
  rw [decodeFrom, if_neg (Nat.not_lt.mpr ha), hp]

theorem decodeFrom_two_iff {i : Nat} {a : UInt8} (ha : 0xC2 ≤ a.toNat ∧ a.toNat ≤ 0xDF) {bs : List UInt8}
    {cs : List Char} :
    decodeFrom i none (a :: bs) = .ok cs ↔ ∃ b rest cs', bs = b :: rest ∧ Continues b ∧
      cs = Char.ofNat (64 * (a.toNat - 0xC0) + (b.toNat - 0x80)) :: cs' ∧ decodeFrom (i + 2) none rest = .ok cs' := by
  rw [decodeFrom_opening (by omega) (opening_two i ha), decodeFrom_last_iff rfl]
  rfl

theorem decodeFrom_three_iff {i : Nat} {a : UInt8} (ha : 0xE0 ≤ a.toNat ∧ a.toNat ≤ 0xEF) {bs : List UInt8}
    {cs : List Char} :
    decodeFrom i none (a :: bs) = .ok cs ↔ ∃ b c rest cs', bs = b :: c :: rest ∧ Continues b ∧ Continues c ∧
      (a.toNat = 0xE0 → 0xA0 ≤ b.toNat) ∧ (a.toNat = 0xED → b.toNat ≤ 0x9F) ∧
      cs = Char.ofNat (64 * (64 * (a.toNat - 0xE0) + (b.toNat - 0x80)) + (c.toNat - 0x80)) :: cs' ∧
      decodeFrom (i + 3) none rest = .ok cs' := by
  rw [decodeFrom_opening (by omega) (opening_three i ha), decodeFrom_more_iff (by simp)]
  constructor
  · rintro ⟨b, more, rfl, hb, hmore⟩
    obtain ⟨c, rest, cs', rfl, hc, rfl, hrest⟩ := (decodeFrom_last_iff rfl).mp hmore
    dsimp only at hb
    refine ⟨b, c, rest, cs', rfl, ⟨?_, ?_⟩, hc, ?_, ?_, rfl, hrest⟩ <;> split at hb <;> split at hb <;> omega
  · rintro ⟨b, c, rest, cs', rfl, ⟨hb, hb'⟩, hc, hlow, hhigh, rfl, hrest⟩
    refine ⟨b, c :: rest, rfl, ?_, (decodeFrom_last_iff rfl).mpr ⟨c, rest, cs', rfl, hc, rfl, hrest⟩⟩
    dsimp only
    split <;> split <;> omega

theorem decodeFrom_four_iff {i : Nat} {a : UInt8} (ha : 0xF0 ≤ a.toNat ∧ a.toNat ≤ 0xF4) {bs : List UInt8}
    {cs : List Char} :
    decodeFrom i none (a :: bs) = .ok cs ↔ ∃ b c d rest cs', bs = b :: c :: d :: rest ∧ Continues b ∧ Continues c ∧
      Continues d ∧ (a.toNat = 0xF0 → 0x90 ≤ b.toNat) ∧ (a.toNat = 0xF4 → b.toNat ≤ 0x8F) ∧
      cs = Char.ofNat (64 * (64 * (64 * (a.toNat - 0xF0) + (b.toNat - 0x80)) + (c.toNat - 0x80)) + (d.toNat - 0x80))
        :: cs' ∧
      decodeFrom (i + 4) none rest = .ok cs' := by
  rw [decodeFrom_opening (by omega) (opening_four i ha), decodeFrom_more_iff (by simp)]
  constructor
  · rintro ⟨b, more, rfl, hb, hmore⟩
    obtain ⟨c, more, rfl, hc, hmore⟩ := (decodeFrom_more_iff (by simp)).mp hmore
    obtain ⟨d, rest, cs', rfl, hd, rfl, hrest⟩ := (decodeFrom_last_iff rfl).mp hmore
    dsimp only at hb
    refine ⟨b, c, d, rest, cs', rfl, ⟨?_, ?_⟩, hc, hd, ?_, ?_, rfl, hrest⟩ <;> split at hb <;> split at hb <;> omega
  · rintro ⟨b, c, d, rest, cs', rfl, ⟨hb, hb'⟩, hc, hd, hlow, hhigh, rfl, hrest⟩
    have hlast := (decodeFrom_last_iff (p := ⟨i, 3, 1, 0x80, 0xBF,
      64 * (64 * (a.toNat - 0xF0) + (b.toNat - 0x80)) + (c.toNat - 0x80)⟩) rfl).mpr ⟨d, rest, cs', rfl, hd, rfl, hrest⟩
    refine ⟨b, c :: d :: rest, rfl, ?_, (decodeFrom_more_iff (by simp)).mpr ⟨c, d :: rest, rfl, hc, hlast⟩⟩
    dsimp only
    split <;> split <;> omega

theorem decodeFrom_none_ne_ok {i : Nat} {a : UInt8} (ha : 0x80 ≤ a.toNat) (hno : a.toNat < 0xC2 ∨ 0xF4 < a.toNat)
    (bs : List UInt8) (cs : List Char) : decodeFrom i none (a :: bs) ≠ .ok cs := by
  rw [decodeFrom, if_neg (Nat.not_lt.mpr ha), opening_none i hno]
  simp

/-! ## Texts -/

theorem eq_encoding_of_decodeFrom {i : Nat} {bs : List UInt8} {cs : List Char} (h : decodeFrom i none bs = .ok cs) :
    bs = cs.flatMap String.utf8EncodeChar := by
  -- a character takes several bytes at once, so the induction is on the length
  induction hn : bs.length using Nat.strongRecOn generalizing i bs cs with
  | ind n ih =>
    cases bs with
    | nil =>
      cases h
      rfl
    | cons a bs =>
      rw [List.length_cons] at hn
      have hfirst : a.toNat < 0x80 ∨ (0xC2 ≤ a.toNat ∧ a.toNat ≤ 0xDF) ∨ (0xE0 ≤ a.toNat ∧ a.toNat ≤ 0xEF) ∨
          (0xF0 ≤ a.toNat ∧ a.toNat ≤ 0xF4) ∨ (0x80 ≤ a.toNat ∧ (a.toNat < 0xC2 ∨ 0xF4 < a.toNat)) := by
        omega
      rcases hfirst with h1 | h2 | h3 | h4 | ⟨hlarge, hno⟩
      · obtain ⟨cs', rfl, hrest⟩ := (decodeFrom_one_iff h1).mp h
        rw [List.flatMap_cons, encode_one h1, ih _ (by omega) hrest rfl]
        rfl
      · obtain ⟨b, rest, cs', rfl, hb, rfl, hrest⟩ := (decodeFrom_two_iff h2).mp h
        rw [List.length_cons] at hn
        rw [List.flatMap_cons, encode_two h2 hb, ih _ (by omega) hrest rfl]
        rfl
      · obtain ⟨b, c, rest, cs', rfl, hb, hc, hlow, hhigh, rfl, hrest⟩ := (decodeFrom_three_iff h3).mp h
        rw [List.length_cons, List.length_cons] at hn
        rw [List.flatMap_cons, encode_three h3 hb hc hlow hhigh, ih _ (by omega) hrest rfl]
        rfl
      · obtain ⟨b, c, d, rest, cs', rfl, hb, hc, hd, hlow, hhigh, rfl, hrest⟩ := (decodeFrom_four_iff h4).mp h
        rw [List.length_cons, List.length_cons, List.length_cons] at hn
        rw [List.flatMap_cons, encode_four h4 hb hc hd hlow hhigh, ih _ (by omega) hrest rfl]
        rfl
      · exact absurd h (decodeFrom_none_ne_ok hlarge hno bs cs)

theorem decodeFrom_encode {i : Nat} {c : Char} {bs : List UInt8} {cs : List Char}
    (h : ∀ i, decodeFrom i none bs = .ok cs) :
    decodeFrom i none (String.utf8EncodeChar c ++ bs) = .ok (c :: cs) := by
  have hchar : Char.ofNat c.val.toNat = c := Char.ofNat_toNat c
  have hvalid : c.val.toNat.isValidChar := c.valid
  rw [String.utf8EncodeChar]
  generalize c.val.toNat = v at hchar hvalid
  rw [Nat.isValidChar] at hvalid
  split
  · have ha : (UInt8.ofNat v).toNat = v := UInt8.toNat_ofNat_of_lt' (show v < 256 by omega)
    exact (decodeFrom_one_iff (by omega)).mpr ⟨cs, by rw [ha, hchar], h _⟩
  · split
    · have ha := UInt8.toNat_ofNat_of_lt' (show v / 64 % 0x20 + 0xc0 < 256 by omega)
      have hb := UInt8.toNat_ofNat_of_lt' (show v % 0x40 + 0x80 < 256 by omega)
      refine (decodeFrom_two_iff (by omega)).mpr ⟨_, bs, cs, rfl, ⟨by omega, by omega⟩, ?_, h _⟩
      have hv : 64 * (v / 64 % 0x20 + 0xc0 - 0xC0) + (v % 0x40 + 0x80 - 0x80) = v := by omega
      rw [ha, hb, hv, hchar]
    · split
      · have ha := UInt8.toNat_ofNat_of_lt' (show v / 4096 % 0x10 + 0xe0 < 256 by omega)
        have hb := UInt8.toNat_ofNat_of_lt' (show v / 64 % 0x40 + 0x80 < 256 by omega)
        have hc := UInt8.toNat_ofNat_of_lt' (show v % 0x40 + 0x80 < 256 by omega)
        refine (decodeFrom_three_iff (by omega)).mpr ⟨_, _, bs, cs, rfl, ⟨by omega, by omega⟩, ⟨by omega, by omega⟩,
          by omega, by omega, ?_, h _⟩
        have hv : 64 * (64 * (v / 4096 % 0x10 + 0xe0 - 0xE0) + (v / 64 % 0x40 + 0x80 - 0x80)) +
            (v % 0x40 + 0x80 - 0x80) = v := by
          omega
        rw [ha, hb, hc, hv, hchar]
      · have ha := UInt8.toNat_ofNat_of_lt' (show v / 262144 % 0x08 + 0xf0 < 256 by omega)
        have hb := UInt8.toNat_ofNat_of_lt' (show v / 4096 % 0x40 + 0x80 < 256 by omega)
        have hc := UInt8.toNat_ofNat_of_lt' (show v / 64 % 0x40 + 0x80 < 256 by omega)
        have hd := UInt8.toNat_ofNat_of_lt' (show v % 0x40 + 0x80 < 256 by omega)
        refine (decodeFrom_four_iff (by omega)).mpr ⟨_, _, _, bs, cs, rfl, ⟨by omega, by omega⟩, ⟨by omega, by omega⟩,
          ⟨by omega, by omega⟩, by omega, by omega, ?_, h _⟩
        have hv : 64 * (64 * (64 * (v / 262144 % 0x08 + 0xf0 - 0xF0) + (v / 4096 % 0x40 + 0x80 - 0x80)) +
            (v / 64 % 0x40 + 0x80 - 0x80)) + (v % 0x40 + 0x80 - 0x80) = v := by
          omega
        rw [ha, hb, hc, hd, hv, hchar]

theorem decodeFrom_encoding (i : Nat) (cs : List Char) :
    decodeFrom i none (cs.flatMap String.utf8EncodeChar) = .ok cs := by
  induction cs generalizing i with
  | nil => rfl
  | cons c cs ih =>
    rw [List.flatMap_cons]
    exact decodeFrom_encode ih

theorem decode_eq_ok_iff {bs : List UInt8} {cs : List Char} :
    decode bs = .ok cs ↔ bs = bytes (String.ofList cs) := by
  rw [bytes_ofList]
  constructor
  · exact eq_encoding_of_decodeFrom
  · intro h
    rw [h]
    exact decodeFrom_encoding 0 cs

/-- The string of a byte sequence that is valid UTF-8. -/
def text? (bs : List UInt8) : Option String := String.fromUTF8? ⟨bs.toArray⟩

theorem text?_eq_some_iff {bs : List UInt8} {s : String} : text? bs = some s ↔ bs = bytes s := by
  rw [text?, String.fromUTF8?]
  constructor
  · intro h
    split at h
    · cases h
      rfl
    · cases h
  · intro h
    subst h
    rw [dif_pos (show ByteArray.IsValidUTF8 ⟨(bytes s).toArray⟩ from s.isValidUTF8)]
    rfl

theorem decode_eq_ok_iff_text? {bs : List UInt8} {cs : List Char} :
    decode bs = .ok cs ↔ text? bs = some (String.ofList cs) := by
  rw [decode_eq_ok_iff, text?_eq_some_iff]

theorem decode_eq_error_iff {bs : List UInt8} : (∃ e, decode bs = .error e) ↔ text? bs = none := by
  cases hd : decode bs with
  | ok cs => simp [decode_eq_ok_iff_text?.mp hd]
  | error e =>
    have hno : ∀ s, text? bs ≠ some s := by
      intro s hs
      rw [← String.ofList_toList (s := s), ← decode_eq_ok_iff_text?, hd] at hs
      cases hs
    simpa using Option.eq_none_iff_forall_ne_some.mpr hno

end DeskCalc.Text.Utf8
