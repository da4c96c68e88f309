/-! # Upper case within ASCII

The full upper-case mapping of Unicode as far as its result is in ASCII. Besides the letters of
ASCII it takes a dotless i, a long s, a sharp s and seven ligatures there.
-/

namespace AccessGovernance.Text

/-- The upper-case form of a character, if it is made of ASCII characters alone. -/
def asciiUpperOf? (c : Char) : Option (List Char) :=
  if c.toNat < 0x80 then some [c.toUpper]
  else
    match c with
    | 'ß' => some ['S', 'S']
    | 'ı' => some ['I']
    | 'ſ' => some ['S']
    | 'ﬀ' => some ['F', 'F']
    | 'ﬁ' => some ['F', 'I']
    | 'ﬂ' => some ['F', 'L']
    | 'ﬃ' => some ['F', 'F', 'I']
    | 'ﬄ' => some ['F', 'F', 'L']
    | 'ﬅ' => some ['S', 'T']
    | 'ﬆ' => some ['S', 'T']
    | _ => none

def asciiUpper? : List Char → Option (List Char)
  | [] => some []
  | c :: rest => (asciiUpperOf? c).bind fun u => (asciiUpper? rest).map (u ++ ·)

end AccessGovernance.Text
