import ClusterDashboard.Text.Utf8
import Mathlib.Data.String.Basic
import Mathlib.Tactic.Common
/-!
# Reading what is written

Bytes read as a text exactly when they are the bytes that the text is written with. A character of
several bytes is known by the digits of its code point to the base 64: the first byte carries the
leading digit and the number of digits that follow. The order of texts is the order of their bytes.
-/
namespace ClusterDashboard.Utf8

open String (utf8EncodeChar)

/-- The bytes that a text is written with. -/
def encode (text : String) : List UInt8 := text.toUTF8.data.toList

theorem encode_eq (text : String) : encode text = text.toList.flatMap utf8EncodeChar := by
  have h := String.toByteArray_ofList (l := text.toList)
  rw [String.ofList_toList] at h
  rw [encode, String.toUTF8_eq_toByteArray, h, List.utf8Encode, List.data_toByteArray]

theorem toNat_byte {k : Nat} (h : k < 256) : (UInt8.ofNat k).toNat = k := by
  rw [UInt8.toNat_ofNat', Nat.mod_eq_of_lt h]

theorem byte_toNat (b : UInt8) : UInt8.ofNat b.toNat = b := UInt8.ofNat_toNat

/-- What the first byte of a longer character says of the bytes after it: how many they are, and
where the first of them lies. -/
structure Leads (lead : UInt8) (n : Nat) (low high : UInt8) : Prop where
  kind : n = 1 ∧ 0xC2 ≤ lead.toNat ∧ lead.toNat ≤ 0xDF ∨
    n = 2 ∧ 0xE0 ≤ lead.toNat ∧ lead.toNat ≤ 0xEF ∨
    n = 3 ∧ 0xF0 ≤ lead.toNat ∧ lead.toNat ≤ 0xF4
  low_eq : lead.toNat = 0xE0 ∧ low.toNat = 0xA0 ∨ lead.toNat = 0xF0 ∧ low.toNat = 0x90 ∨
    lead.toNat ≠ 0xE0 ∧ lead.toNat ≠ 0xF0 ∧ low.toNat = 0x80
  high_eq : lead.toNat = 0xED ∧ high.toNat = 0x9F ∨ lead.toNat = 0xF4 ∧ high.toNat = 0x8F ∨
    lead.toNat ≠ 0xED ∧ lead.toNat ≠ 0xF4 ∧ high.toNat = 0xBF

theorem byte_beq (a b : UInt8) : (a == b) = decide (a.toNat = b.toNat) := by
  rw [Bool.eq_iff_iff, beq_iff_eq, decide_eq_true_eq, UInt8.toNat_inj]

theorem leads_of_following {lead low high : UInt8} {n : Nat}
    (h : following? lead = some (n, low, high)) : Leads lead n low high := by
  simp only [following?, UInt8.le_iff_toNat_le, byte_beq, Bool.and_eq_true, decide_eq_true_eq,
    UInt8.reduceToNat] at h
  split_ifs at h <;> cases h <;> constructor <;> simp <;> omega

theorem following_of_range {lead : UInt8} (h : 0xC2 ≤ lead.toNat ∧ lead.toNat ≤ 0xF4) :
    ∃ n low high, following? lead = some (n, low, high) := by
  cases hf : following? lead with
  | some parts => exact ⟨_, _, _, rfl⟩
  | none =>
    simp only [following?, UInt8.le_iff_toNat_le, byte_beq, Bool.and_eq_true,
      decide_eq_true_eq] at hf
    grind

/-- Another digit is read from a byte in range. -/
theorem extend_eq_some {n : Nat} {low high : UInt8} {code v : Nat} {bytes rest : List UInt8}
    (hl : 0x80 ≤ low.toNat) (hh : high.toNat ≤ 0xBF) :
    extend (n + 1) low high code bytes = (some v, rest) ↔
      ∃ k more, bytes = UInt8.ofNat (k + 0x80) :: more ∧ k < 64 ∧ low.toNat ≤ k + 0x80 ∧
        k + 0x80 ≤ high.toNat ∧ extend n 0x80 0xBF (64 * code + k) more = (some v, rest) := by
  cases bytes with
  | nil => simp [extend]
  | cons b more =>
    simp only [extend, UInt8.le_iff_toNat_le, Bool.and_eq_true, decide_eq_true_eq]
    constructor
    · intro h
      split at h
      · have hb : b.toNat - 0x80 + 0x80 = b.toNat := by omega
        have hk : b.toNat % 64 = b.toNat - 0x80 := by omega
        refine ⟨b.toNat - 0x80, more, ?_, by omega, by omega, by omega, hk ▸ h⟩
        rw [hb, byte_toNat]
      · cases h
    · rintro ⟨k, _, he, hk, hlow, hhigh, h⟩
      obtain ⟨rfl, rfl⟩ := List.cons.inj he
      have hd : (k + 0x80) % 64 = k := by omega
      rwa [toNat_byte (by omega), if_pos ⟨hlow, hhigh⟩, hd]

theorem next_short {k : Nat} (h : k < 0x80) (rest : List UInt8) :
    next (UInt8.ofNat k) rest = (some (Char.ofNat k), rest) := by
  have hb : UInt8.ofNat k < 0x80 := by
    rw [UInt8.lt_iff_toNat_lt, toNat_byte (by omega)]
    exact h
  rw [next, if_pos hb, toNat_byte (by omega)]

theorem next_long {lead : UInt8} {c : Char} {more rest : List UInt8}
    (hl : 0x80 ≤ lead.toNat) : next lead more = (some c, rest) ↔
      ∃ n low high v, following? lead = some (n, low, high) ∧
        extend n low high (leadBits n lead) more = (some v, rest) ∧ Char.ofNat v = c := by
  have hs : ¬lead < 0x80 := fun h => absurd (UInt8.lt_iff_toNat_lt.mp h) (Nat.not_lt.mpr hl)
  rw [next, if_neg hs]
  cases following? lead with
  | none => simp
  | some parts => simp [Prod.ext_iff]; grind

/-- A code point and the bytes of its character; each code point is written with as few bytes as
can be, and surrogates are not written at all. -/
inductive Written : List UInt8 → Nat → Prop where
  | one {k : Nat} (hk : k < 0x80) : Written [.ofNat k] k
  | two {k l : Nat} (hk : 2 ≤ k ∧ k < 32) (hl : l < 64) :
    Written [.ofNat (k + 0xC0), .ofNat (l + 0x80)] (64 * k + l)
  | three {k l m : Nat} (hk : k < 16) (hl : l < 64) (hm : m < 64) (short : k = 0 → 32 ≤ l)
    (surrogate : k = 13 → l < 32) :
    Written [.ofNat (k + 0xE0), .ofNat (l + 0x80), .ofNat (m + 0x80)] (64 * (64 * k + l) + m)
  | four {k l m n : Nat} (hk : k < 5) (hl : l < 64) (hm : m < 64) (hn : n < 64)
    (short : k = 0 → 16 ≤ l) (long : k = 4 → l < 16) :
    Written [.ofNat (k + 0xF0), .ofNat (l + 0x80), .ofNat (m + 0x80), .ofNat (n + 0x80)]
      (64 * (64 * (64 * k + l) + m) + n)

theorem Written.valid {bytes : List UInt8} {v : Nat} (h : Written bytes v) : v.isValidChar := by
  cases h <;> simp only [Nat.isValidChar] <;> omega

theorem Written.encoded {bytes : List UInt8} {v : Nat} (h : Written bytes v) :
    utf8EncodeChar (Char.ofNat v) = bytes := by
  have hv : (Char.ofNat v).val.toNat = v := by
    rw [Char.ofNat, dif_pos h.valid]
    rfl
  rw [utf8EncodeChar, hv]
  cases h with
  | one hk => rw [if_pos (by omega)]
  | @two k l hk hl =>
    rw [if_neg (by omega), if_pos (by omega)]
    have h1 : (64 * k + l) / 64 % 32 = k := by omega
    have h2 : (64 * k + l) % 64 = l := by omega
    rw [h1, h2]
  | @three k l m hk hl hm short surrogate =>
    rw [if_neg (by omega), if_neg (by omega), if_pos (by omega)]
    have h1 : (64 * (64 * k + l) + m) / 4096 % 16 = k := by omega
    have h2 : (64 * (64 * k + l) + m) / 64 % 64 = l := by omega
    have h3 : (64 * (64 * k + l) + m) % 64 = m := by omega
    rw [h1, h2, h3]
  | @four k l m n hk hl hm hn short long =>
    rw [if_neg (by omega), if_neg (by omega), if_neg (by omega)]
    have h1 : (64 * (64 * (64 * k + l) + m) + n) / 262144 % 8 = k := by omega
    have h2 : (64 * (64 * (64 * k + l) + m) + n) / 4096 % 64 = l := by omega
    have h3 : (64 * (64 * (64 * k + l) + m) + n) / 64 % 64 = m := by omega
    have h4 : (64 * (64 * (64 * k + l) + m) + n) % 64 = n := by omega
    rw [h1, h2, h3, h4]

theorem exists_written {v : Nat} (h : v.isValidChar) : ∃ bytes, Written bytes v := by
  have hv : v < 0x110000 ∧ (v < 0xD800 ∨ 0xDFFF < v) := by
    simp only [Nat.isValidChar] at h
    omega
  by_cases h1 : v < 0x80
  · exact ⟨_, .one h1⟩
  by_cases h2 : v < 0x800
  · have hw : v = 64 * (v / 64) + v % 64 := by omega
    rw [hw]
    exact ⟨_, .two (by omega) (by omega)⟩
  by_cases h3 : v < 0x10000
  · have hw : v = 64 * (64 * (v / 4096) + v / 64 % 64) + v % 64 := by omega
    rw [hw]
    exact ⟨_, .three (by omega) (by omega) (by omega) (by omega) (by omega)⟩
  · have hw : v = 64 * (64 * (64 * (v / 262144) + v / 4096 % 64) + v / 64 % 64) + v % 64 := by
      omega
    rw [hw]
    exact ⟨_, .four (by omega) (by omega) (by omega) (by omega) (by omega) (by omega)⟩

theorem written_encoded (c : Char) : Written (utf8EncodeChar c) c.toNat := by
  obtain ⟨bytes, h⟩ := exists_written c.valid
  have hc : utf8EncodeChar c = bytes := by
    rw [← h.encoded]
    exact congrArg utf8EncodeChar (Char.ofNat_toNat c).symm
  rw [hc]
  exact h

/-- After the first of them the bytes are free. -/
theorem extend_tail {n code v : Nat} {bytes rest : List UInt8} :
    extend (n + 1) 0x80 0xBF code bytes = (some v, rest) ↔
      ∃ k more, bytes = UInt8.ofNat (k + 0x80) :: more ∧ k < 64 ∧
        extend n 0x80 0xBF (64 * code + k) more = (some v, rest) := by
  rw [extend_eq_some (by decide) (by decide)]
  constructor
  · rintro ⟨k, more, hb, hk, -, -, h⟩
    exact ⟨k, more, hb, hk, h⟩
  · rintro ⟨k, more, hb, hk, h⟩
    exact ⟨k, more, hb, hk, Nat.le_add_left .., Nat.add_le_add_right (Nat.le_of_lt_succ hk) _, h⟩

theorem extend_zero {low high : UInt8} {code v : Nat} {bytes rest : List UInt8} :
    extend 0 low high code bytes = (some v, rest) ↔ code = v ∧ bytes = rest := by
  rw [extend, Prod.mk.injEq, Option.some.injEq]

theorem leadBits_one (lead : UInt8) : leadBits 1 lead = lead.toNat % 32 := rfl

theorem leadBits_two (lead : UInt8) : leadBits 2 lead = lead.toNat % 16 := rfl

theorem leadBits_three (lead : UInt8) : leadBits 3 lead = lead.toNat % 8 := rfl

/-- What is read as a longer character is one. -/
theorem written_of_extend {lead low high : UInt8} {n v : Nat} {more rest : List UInt8}
    (hl : Leads lead n low high) (h : extend n low high (leadBits n lead) more = (some v, rest)) :
    ∃ bytes, Written bytes v ∧ lead :: more = bytes ++ rest := by
  obtain ⟨kind, hlow, hhigh⟩ := hl
  have hb : ∀ m, m ≤ lead.toNat → lead = .ofNat (lead.toNat - m + m) := by
    intro m hm
    rw [Nat.sub_add_cancel hm, byte_toNat]
  rcases kind with ⟨rfl, h1, h2⟩ | ⟨rfl, h1, h2⟩ | ⟨rfl, h1, h2⟩
  · obtain ⟨l, _, rfl, hl, -, -, h⟩ := (extend_eq_some (by omega) (by omega)).mp h
    obtain ⟨rfl, rfl⟩ := extend_zero.mp h
    have hk : leadBits 1 lead = lead.toNat - 0xC0 := by rw [leadBits_one]; omega
    rw [hk]
    refine ⟨_, .two (by omega) hl, ?_⟩
    rw [← hb _ (by omega)]
    rfl
  · obtain ⟨l, _, rfl, hl, h3, h4, h⟩ := (extend_eq_some (by omega) (by omega)).mp h
    obtain ⟨m, _, rfl, hm, h⟩ := extend_tail.mp h
    obtain ⟨rfl, rfl⟩ := extend_zero.mp h
    have hk : leadBits 2 lead = lead.toNat - 0xE0 := by rw [leadBits_two]; omega
    rw [hk]
    refine ⟨_, .three (by omega) hl hm (by omega) (by omega), ?_⟩
    rw [← hb _ (by omega)]
    rfl
  · obtain ⟨l, _, rfl, hl, h3, h4, h⟩ := (extend_eq_some (by omega) (by omega)).mp h
    obtain ⟨m, _, rfl, hm, h⟩ := extend_tail.mp h
    obtain ⟨o, _, rfl, ho, h⟩ := extend_tail.mp h
    obtain ⟨rfl, rfl⟩ := extend_zero.mp h
    have hk : leadBits 3 lead = lead.toNat - 0xF0 := by rw [leadBits_three]; omega
    rw [hk]
    refine ⟨_, .four (by omega) hl hm ho (by omega) (by omega), ?_⟩
    rw [← hb _ (by omega)]
    rfl

theorem leads_byte {k : Nat} (h1 : 0xC2 ≤ k) (h2 : k ≤ 0xF4) : ∃ n low high,
    following? (.ofNat k) = some (n, low, high) ∧ Leads (.ofNat k) n low high := by
  have hk : 0xC2 ≤ (UInt8.ofNat k).toNat ∧ (UInt8.ofNat k).toNat ≤ 0xF4 := by
    rw [toNat_byte (by omega)]
    exact ⟨h1, h2⟩
  obtain ⟨n, low, high, hf⟩ := following_of_range hk
  exact ⟨n, low, high, hf, leads_of_following hf⟩

/-- A character is read from the bytes that it is written with, whatever comes after them. -/
theorem next_written {lead : UInt8} {tail : List UInt8} {v : Nat} (h : Written (lead :: tail) v)
    (rest : List UInt8) : next lead (tail ++ rest) = (some (Char.ofNat v), rest) := by
  cases h with
  | one hk => exact next_short hk rest
  | @two k l hk hl =>
    have hb : (UInt8.ofNat (k + 0xC0)).toNat = k + 0xC0 := toNat_byte (by omega)
    obtain ⟨n, low, high, hf, kind, h1, h2⟩ := leads_byte (by omega : 0xC2 ≤ k + 0xC0) (by omega)
    obtain rfl : n = 1 := by omega
    refine (next_long (by omega)).mpr ⟨1, low, high, _, hf, ?_, rfl⟩
    refine (extend_eq_some (by omega) (by omega)).mpr ⟨l, _, rfl, hl, by omega, by omega, ?_⟩
    rw [extend_zero, leadBits_one, hb]
    exact ⟨by omega, rfl⟩
  | @three k l m hk hl hm short surrogate =>
    have hb : (UInt8.ofNat (k + 0xE0)).toNat = k + 0xE0 := toNat_byte (by omega)
    obtain ⟨n, low, high, hf, kind, h1, h2⟩ := leads_byte (by omega : 0xC2 ≤ k + 0xE0) (by omega)
    obtain rfl : n = 2 := by omega
    refine (next_long (by omega)).mpr ⟨2, low, high, _, hf, ?_, rfl⟩
    refine (extend_eq_some (by omega) (by omega)).mpr ⟨l, _, rfl, hl, by omega, by omega, ?_⟩
    refine extend_tail.mpr ⟨m, _, rfl, hm, ?_⟩
    rw [extend_zero, leadBits_two, hb]
    exact ⟨by omega, rfl⟩
  | @four k l m o hk hl hm ho short long =>
    have hb : (UInt8.ofNat (k + 0xF0)).toNat = k + 0xF0 := toNat_byte (by omega)
    obtain ⟨n, low, high, hf, kind, h1, h2⟩ := leads_byte (by omega : 0xC2 ≤ k + 0xF0) (by omega)
    obtain rfl : n = 3 := by omega
    refine (next_long (by omega)).mpr ⟨3, low, high, _, hf, ?_, rfl⟩
    refine (extend_eq_some (by omega) (by omega)).mpr ⟨l, _, rfl, hl, by omega, by omega, ?_⟩
    refine extend_tail.mpr ⟨m, _, rfl, hm, extend_tail.mpr ⟨o, _, rfl, ho, ?_⟩⟩
    rw [extend_zero, leadBits_three, hb]
    exact ⟨by omega, rfl⟩

theorem written_of_next {b : UInt8} {more rest : List UInt8} {c : Char}
    (h : next b more = (some c, rest)) :
    ∃ bytes v, Written bytes v ∧ b :: more = bytes ++ rest ∧ Char.ofNat v = c := by
  by_cases hb : b.toNat < 0x80
  · rw [← byte_toNat b, next_short hb] at h
    obtain ⟨hc, rfl⟩ := Prod.mk.inj h
    exact ⟨_, _, .one hb, by rw [byte_toNat]; rfl, Option.some.inj hc⟩
  · obtain ⟨n, low, high, v, hf, he, rfl⟩ := (next_long (Nat.not_lt.mp hb)).mp h
    obtain ⟨bytes, hw, hm⟩ := written_of_extend (leads_of_following hf) he
    exact ⟨bytes, v, hw, hm, rfl⟩

theorem decodeFrom_append (done earlier : List (Option Char)) (bytes : List UInt8) :
    decodeFrom (done ++ earlier) bytes = earlier.reverse ++ decodeFrom done bytes := by
  fun_induction decodeFrom done bytes with
  | case1 done => rw [decodeFrom, List.reverse_append]
  | case2 done b rest ih =>
    rw [decodeFrom]
    exact ih

theorem decode_nil : decode [] = [] := by
  rw [decode, decodeFrom, List.reverse_nil]

theorem decode_cons (b : UInt8) (rest : List UInt8) :
    decode (b :: rest) = (next b rest).1 :: decode (next b rest).2 := by
  rw [decode, decodeFrom]
  exact decodeFrom_append [] [(next b rest).1] (next b rest).2

theorem decode_encoded (chars : List Char) :
    decode (chars.flatMap utf8EncodeChar) = chars.map some := by
  induction chars with
  | nil => exact decode_nil
  | cons c chars ih =>
    have hw := written_encoded c
    rw [List.flatMap_cons, List.map_cons]
    cases hc : utf8EncodeChar c with
    | nil => exact absurd hc String.utf8EncodeChar_ne_nil
    | cons lead tail =>
      rw [hc] at hw
      rw [List.cons_append, decode_cons, next_written hw, ih, Char.ofNat_toNat]

theorem encoded_of_decode {chars : List Char} {bytes : List UInt8}
    (h : decode bytes = chars.map some) : bytes = chars.flatMap utf8EncodeChar := by
  induction chars generalizing bytes with
  | nil =>
    cases bytes with
    | nil => rfl
    | cons b rest =>
      rw [decode_cons] at h
      cases h
  | cons c chars ih =>
    cases bytes with
    | nil =>
      rw [decode_nil] at h
      cases h
    | cons b rest =>
      rw [decode_cons, List.map_cons, List.cons.injEq] at h
      obtain ⟨bytes, v, hw, hb, hv⟩ := written_of_next (Prod.ext h.1 rfl)
      rw [hb, List.flatMap_cons, ← ih h.2, ← hv, hw.encoded]

theorem map_some_of_all {read : List (Option Char)} (h : read.all Option.isSome = true) :
    (read.filterMap id).map some = read := by
  induction read with
  | nil => rfl
  | cons c read ih =>
    rw [List.all_cons, Bool.and_eq_true] at h
    obtain ⟨c, rfl⟩ := Option.isSome_iff_exists.mp h.1
    exact congrArg (some c :: ·) (ih h.2)

/-- Bytes are read as a text, whole and without loss, exactly when that text is written so. -/
theorem decode?_eq_some {bytes : List UInt8} {text : String} :
    decode? bytes = some text ↔ encode text = bytes := by
  rw [encode_eq]
  constructor
  · intro h
    rw [decode?] at h
    split at h
    · next hall =>
      obtain rfl := Option.some.inj h
      rw [String.toList_ofList, ← encoded_of_decode (map_some_of_all hall).symm]
    · cases h
  · rintro rfl
    rw [decode?, decode_encoded]
    simp

/-! ### The order of texts

Texts are compared character by character. The bytes of a smaller character are smaller, and none
begin those of another, so that it comes to the same to compare the bytes that the texts are written
with. -/

/-- The bytes of two characters part before either of them ends, whatever comes after: at the first
byte if they are of different number, else at the first digit of the code points that differs. -/
theorem Written.lt_append {a b : List UInt8} {v w : Nat} (ha : Written a v) (hb : Written b w)
    (h : v < w) (s t : List UInt8) : a ++ s < b ++ t := by
  cases ha <;> cases hb <;>
    simp only [List.cons_append, List.cons_lt_cons_iff, UInt8.lt_iff_toNat_lt, ← UInt8.toNat_inj,
      UInt8.toNat_ofNat'] <;>
    omega

theorem flatMap_lt {a b : List Char} (h : a < b) :
    a.flatMap utf8EncodeChar < b.flatMap utf8EncodeChar := by
  induction h with
  | @nil c b =>
    rw [List.flatMap_cons]
    cases bytes : utf8EncodeChar c with
    | nil => exact absurd bytes String.utf8EncodeChar_ne_nil
    | cons lead tail => exact List.nil_lt_cons lead _
  | cons _ ih => exact List.append_left_lt ih
  | @rel c a d b less => exact (written_encoded c).lt_append (written_encoded d) less _ _

/-- The order of texts is the order of their bytes. -/
theorem encode_lt_iff {a b : String} : encode a < encode b ↔ a < b := by
  have forward {a b : String} (h : a < b) : encode a < encode b := by
    rw [encode_eq, encode_eq]
    exact flatMap_lt (String.lt_iff.mp h)
  refine ⟨fun h => ?_, forward⟩
  rcases lt_trichotomy a b with less | rfl | greater
  · exact less
  · exact absurd h (List.lt_irrefl _)
  · exact absurd h (List.lt_asymm (forward greater))

theorem encode_le_iff {a b : String} : encode a ≤ encode b ↔ a ≤ b := by
  rw [← List.not_lt, encode_lt_iff, not_lt]

example : encode "z" < encode "é" ∧ encode "\uFFFD" < encode "😀" := by decide

end ClusterDashboard.Utf8
