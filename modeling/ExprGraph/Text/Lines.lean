/-!
Texts made of lines, each ended by a line break.
-/

namespace ExprGraph.Text

def unlines (lines : List String) : String :=
  String.join (lines.map (fun line => line ++ "\n"))

end ExprGraph.Text
