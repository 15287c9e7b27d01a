import Telemetry.Text.Split
import Telemetry.Text.Utf8
import Telemetry.Url.Domain.Label

namespace Telemetry.Url.Domain

def toAscii? (bytes : List UInt8) : Option (List Char) := do
  let labels := Text.splitOn '.' (← fold? (← Utf8.decode? bytes).toList)
  let texts ← labels.mapM meaning?
  guard (texts.all isLabel)
  if texts.any isMixed then guard (texts.all hasOneDirection)
  return ['.'].intercalate (← (labels.zip texts).mapM fun (label, text) ↦ labelInAscii? label text)

end Telemetry.Url.Domain
