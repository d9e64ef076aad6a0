namespace AnomalyWindows.Text

/-- Upper case of the ASCII letters, and of the two other letters whose upper case is one: the
long s and the dotless i. -/
def upper (c : Char) : Char :=
  if c = 'ſ' then 'S' else if c = 'ı' then 'I' else c.toUpper

end AnomalyWindows.Text
