/-!
# Texts as numbers

An ASCII text of at most `width` characters is read as a number with `width` digits in base 128,
filled up with NUL on the right. The order of the numbers is the order of the texts, and texts that
differ only in NULs at their end have one number.

* `AsciiCode.encode`: the number of a text.
* `AsciiCode.decode`: the text of a number, without NULs at its end.
-/

namespace TableExchange

namespace AsciiCode

/-- The base: one digit for each ASCII character. -/
def radix : Nat := 128

/-- The number of a text, filled up to `width` characters. -/
def encode (width : Nat) (text : List Char) : Nat :=
  (text ++ List.replicate (width - text.length) (Char.ofNat 0)).foldl
    (fun n c => n * radix + c.toNat) 0

/-- The last `width` digits of a number, most significant first. -/
def digits : (width : Nat) → Nat → List Nat
  | 0, _ => []
  | width + 1, n => digits width (n / radix) ++ [n % radix]

def dropTrailingZeros (ds : List Nat) : List Nat := (ds.reverse.dropWhile (· = 0)).reverse

/-- The text of a number of `width` digits, without NULs at its end. -/
def decode (width n : Nat) : List Char := (dropTrailingZeros (digits width n)).map Char.ofNat

end AsciiCode

end TableExchange
