namespace Telemetry.Text

/-- The parts between the separators. There is one more of them than separators. -/
def splitOn (sep : Char) : List Char → List (List Char)
  | [] => [[]]
  | c :: cs =>
    if c = sep then [] :: splitOn sep cs
    else match splitOn sep cs with
      | part :: parts => (c :: part) :: parts
      | [] => [[c]]

/-- The parts of a text whose separators end parts: after the last one there is no empty part. -/
def splitEnded (sep : Char) (cs : List Char) : List (List Char) :=
  let parts := splitOn sep cs
  if parts.getLast? = some [] then parts.dropLast else parts

def splitFirst (sep : Char) : List Char → Option (List Char × List Char)
  | [] => none
  | c :: cs =>
    if c = sep then some ([], cs) else (splitFirst sep cs).map fun p ↦ (c :: p.1, p.2)

end Telemetry.Text
