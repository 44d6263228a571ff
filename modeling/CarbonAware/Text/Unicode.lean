/-!
# Characters and their bytes

`Utf8.decode` reads a text from its UTF-8 bytes, and tells at which byte the first malformed sequence starts.  Blanks
are known in two classes: the ASCII blanks among bytes, and the Unicode blanks among characters.
-/

namespace CarbonAware.Text

/-- Drops the elements at both ends that satisfy `p`. -/
def trim {α : Type} (p : α → Bool) (xs : List α) : List α := ((xs.dropWhile p).reverse.dropWhile p).reverse

/-- The space, the tabulator, the line feed, the form feed and the carriage return. -/
def isBlankByte (b : UInt8) : Bool := b == 32 || b == 9 || b == 10 || b == 12 || b == 13

/-- The characters with the Unicode property `White_Space`. -/
def isBlank (c : Char) : Bool :=
  let n := c.toNat
  (9 ≤ n && n ≤ 13) || n == 0x20 || n == 0x85 || n == 0xA0 || n == 0x1680 || (0x2000 ≤ n && n ≤ 0x200A) ||
    n == 0x2028 || n == 0x2029 || n == 0x202F || n == 0x205F || n == 0x3000

/-- Every ASCII blank character is a Unicode blank. -/
theorem isBlank_of_isWhitespace {c : Char} (h : c.isWhitespace = true) : isBlank c = true := by
  simp only [Char.isWhitespace, Bool.or_eq_true, decide_eq_true_eq] at h
  rcases h with ((rfl | rfl) | rfl) | rfl <;> rfl

namespace Utf8

/-- Whether a byte may follow the first one of a sequence. -/
def isTail (b : UInt8) : Bool := 0x80 ≤ b && b ≤ 0xBF

/-- Whether two bytes are the sequence of a character. -/
def isPair (a b : UInt8) : Bool := 0xC2 ≤ a && a ≤ 0xDF && isTail b

/-- Whether two bytes start a sequence of three: no overlong form and no surrogate. -/
def startsTriple (a b : UInt8) : Bool :=
  (a == 0xE0 && 0xA0 ≤ b && b ≤ 0xBF) || (a == 0xED && 0x80 ≤ b && b ≤ 0x9F) ||
    (0xE1 ≤ a && a ≤ 0xEF && a != 0xED && isTail b)

/-- Whether two bytes start a sequence of four: no overlong form and nothing above the last code point. -/
def startsQuadruple (a b : UInt8) : Bool :=
  (a == 0xF0 && 0x90 ≤ b && b ≤ 0xBF) || (a == 0xF4 && 0x80 ≤ b && b ≤ 0x8F) ||
    (0xF1 ≤ a && a ≤ 0xF3 && isTail b)

/-- The character whose code point has the low six bits of each of the bytes, after those of `high`. -/
def assemble (high : Nat) (tail : List UInt8) : Char :=
  Char.ofNat (tail.foldl (fun n b => n * 64 + b.toNat % 64) high)

/-- Decodes the bytes from the byte `index` on; the error is the index of the first malformed sequence. -/
def decodeFrom (index : Nat) : List UInt8 → Except Nat (List Char)
  | [] => .ok []
  | a :: rest =>
    if a < 0x80 then (decodeFrom (index + 1) rest).map (Char.ofNat a.toNat :: ·)
    else match rest with
      | [] => .error index
      | b :: rest =>
        if isPair a b then (decodeFrom (index + 2) rest).map (assemble (a.toNat % 32) [b] :: ·)
        else match rest with
          | [] => .error index
          | c :: rest =>
            if startsTriple a b && isTail c then
              (decodeFrom (index + 3) rest).map (assemble (a.toNat % 16) [b, c] :: ·)
            else match rest with
              | [] => .error index
              | d :: rest =>
                if startsQuadruple a b && isTail c && isTail d then
                  (decodeFrom (index + 4) rest).map (assemble (a.toNat % 8) [b, c, d] :: ·)
                else .error index

/-- The text of the bytes. -/
def decode (bytes : List UInt8) : Except Nat String := (decodeFrom 0 bytes).map String.ofList

end Utf8

end CarbonAware.Text
