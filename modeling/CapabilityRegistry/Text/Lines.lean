/-!
# Lines of generated text

Generated text is made line by line. Each line ends in a new line, the last one too.
-/

namespace CapabilityRegistry.Text

/-- The text of lines. -/
def unlines (lines : List String) : String :=
  String.join (lines.map (· ++ "\n"))

/-- A string in double quotes, as it is. -/
def inQuotes (s : String) : String :=
  "\"" ++ s ++ "\""

end CapabilityRegistry.Text
