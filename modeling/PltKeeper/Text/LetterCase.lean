/-!
Letter case, as far as recognising a fixed word of ASCII letters needs it.
-/

namespace PltKeeper.Text

/-- Lower case as far as it yields ASCII; all other characters stay as they are. The Kelvin sign is
the one character outside ASCII that becomes an ASCII letter. -/
def lowerAscii (s : List Char) : List Char :=
  s.map fun c => if c = '\u212a' then 'k' else c.toLower

/-- The characters outside ASCII whose upper case form is made of ASCII letters. -/
def asciiCapitals : List (Char × List Char) :=
  [('ß', ['S', 'S']), ('ı', ['I']), ('ſ', ['S']), ('ﬀ', ['F', 'F']), ('ﬁ', ['F', 'I']),
   ('ﬂ', ['F', 'L']), ('ﬃ', ['F', 'F', 'I']), ('ﬄ', ['F', 'F', 'L']), ('ﬅ', ['S', 'T']),
   ('ﬆ', ['S', 'T'])]

/-- Upper case as far as it yields ASCII; all other characters stay as they are. -/
def upperAscii (s : List Char) : List Char :=
  s.flatMap fun c => (asciiCapitals.lookup c).getD [c.toUpper]

end PltKeeper.Text
