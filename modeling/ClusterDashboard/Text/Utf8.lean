/-!
UTF-8: reading bytes as characters, strictly or with a replacement character for every longest
piece that begins a character and does not complete it.
-/
namespace ClusterDashboard.Utf8

/-- For a leading byte the number of bytes that follow it, and the range of the first of them. -/
def following? (lead : UInt8) : Option (Nat × UInt8 × UInt8) :=
  if 0xC2 ≤ lead && lead ≤ 0xDF then some (1, 0x80, 0xBF)
  else if lead == 0xE0 then some (2, 0xA0, 0xBF)
  else if lead == 0xED then some (2, 0x80, 0x9F)
  else if 0xE1 ≤ lead && lead ≤ 0xEF then some (2, 0x80, 0xBF)
  else if lead == 0xF0 then some (3, 0x90, 0xBF)
  else if 0xF1 ≤ lead && lead ≤ 0xF3 then some (3, 0x80, 0xBF)
  else if lead == 0xF4 then some (3, 0x80, 0x8F)
  else none

/-- The payload bits of the leading byte of a sequence with `n` more bytes. -/
def leadBits (n : Nat) (lead : UInt8) : Nat := lead.toNat % Nat.pow 2 (6 - n)

/-- Reads `n` more bytes into the code point; nothing if one is out of range. What is left over
begins at the first byte that does not belong. -/
def extend : Nat → UInt8 → UInt8 → Nat → List UInt8 → Option Nat × List UInt8
  | 0, _, _, code, rest => (some code, rest)
  | n + 1, low, high, code, b :: rest =>
    if low ≤ b && b ≤ high then extend n 0x80 0xBF (64 * code + b.toNat % 64) rest
    else (none, b :: rest)
  | _ + 1, _, _, _, [] => (none, [])

/-- The first character, or nothing for an ill-formed piece, and the bytes after it. -/
def next (b : UInt8) (rest : List UInt8) : Option Char × List UInt8 :=
  if b < 0x80 then (some (Char.ofNat b.toNat), rest)
  else match following? b with
    | none => (none, rest)
    | some (n, low, high) =>
      let (code, rest) := extend n low high (leadBits n b) rest
      (code.map Char.ofNat, rest)

theorem length_extend (n : Nat) (low high : UInt8) (code : Nat) (rest : List UInt8) :
    (extend n low high code rest).2.length ≤ rest.length := by
  induction n generalizing low high code rest with
  | zero => simp [extend]
  | succ n ih =>
    cases rest with
    | nil => simp [extend]
    | cons b rest =>
      simp only [extend]
      split
      · exact Nat.le_succ_of_le (ih _ _ _ _)
      · exact Nat.le_refl _

theorem length_next (b : UInt8) (rest : List UInt8) : (next b rest).2.length ≤ rest.length := by
  unfold next
  split
  · exact Nat.le_refl _
  · split
    · exact Nat.le_refl _
    · exact length_extend _ _ _ _ _

/-- The characters read so far are kept in reverse order. -/
def decodeFrom (done : List (Option Char)) : List UInt8 → List (Option Char)
  | [] => done.reverse
  | b :: rest => decodeFrom ((next b rest).1 :: done) (next b rest).2
termination_by bytes => bytes.length
decreasing_by exact Nat.lt_succ_of_le (length_next b rest)

/-- Characters, with nothing in place of each ill-formed piece. -/
def decode (bytes : List UInt8) : List (Option Char) := decodeFrom [] bytes

def decode? (bytes : List UInt8) : Option String :=
  let read := decode bytes
  if read.all Option.isSome then some (String.ofList (read.filterMap id)) else none

def decodeLossy (bytes : List UInt8) : String :=
  String.ofList ((decode bytes).map (·.getD '\uFFFD'))

end ClusterDashboard.Utf8
