/-!
# Measures of texts

How many columns a text takes depends on what shows it. The layout of documents and the carets of
diagnostics take that as a parameter, `Measure`: an integer of 64 bits that is not negative, and none
for the empty text. Nothing else is known of it.
-/

namespace TermBot.Text

/-- What shows texts, in so many columns each. -/
class Measure where
  columns : String → Nat
  columns_empty : columns "" = 0
  columns_lt (s : String) : columns s < Nat.pow 2 63

end TermBot.Text
