/-!
White space and its removal from the ends of a text.
-/

namespace ValueSchema.Text

/-- white space of any script -/
def isBlank (c : Char) : Bool :=
  let n := c.toNat
  (9 ≤ n && n ≤ 13) || n == 0x20 || n == 0x85 || n == 0xA0 || n == 0x1680 || (0x2000 ≤ n && n ≤ 0x200A) ||
    n == 0x2028 || n == 0x2029 || n == 0x202F || n == 0x205F || n == 0x3000

/-- without the leading characters of a class -/
def dropStart (p : Char → Bool) (cs : List Char) : List Char := cs.dropWhile p

/-- without the trailing characters of a class -/
def dropEnd (p : Char → Bool) (cs : List Char) : List Char := (cs.reverse.dropWhile p).reverse

/-- without the characters of a class at either end -/
def trimBy (p : Char → Bool) (cs : List Char) : List Char := dropEnd p (dropStart p cs)

/-- without white space at either end -/
def trim (cs : List Char) : List Char := trimBy isBlank cs

/-- without leading white space -/
def trimStart (cs : List Char) : List Char := dropStart isBlank cs

end ValueSchema.Text
