namespace AnomalyWindows.Number

/-- The first integer that is too large for a word; its negative is the smallest one in a word. -/
def wordLimit : Int := 9223372036854775808

def fitsWord (n : Int) : Bool :=
  -wordLimit ≤ n && n < wordLimit

def fitsNatural (n : Int) : Bool :=
  0 ≤ n && n < 2 * wordLimit

end AnomalyWindows.Number
