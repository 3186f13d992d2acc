import ValueSchema.Calendar.Timestamp
import ValueSchema.Format.Text
import ValueSchema.Format.Url
import ValueSchema.Message
import ValueSchema.Pattern.Reader

/-!
Which texts have a format.
-/

namespace ValueSchema.Format

open Text

/-- whether a text has a format; a pattern may be found anywhere in it, and one that does not read is found nowhere -/
def accepts (format : Format) (s : String) : Bool :=
  let cs := s.toList
  match format with
  | .email => isEmail cs
  | .url => isUrl cs
  | .uuid => isUuid cs
  | .ipv4 => isIpv4 cs
  | .ipv6 => isIpv6 cs
  | .ip => isIpv4 cs || isIpv6 cs
  | .datetime => (Instant.ofTimestamp? cs).isSome
  | .regex pattern => (Pattern.read? pattern).any (·.foundIn s)
  | .startsWith head => head.toList.isPrefixOf cs
  | .endsWith tail => tail.toList.isSuffixOf cs
  | .includes part => occursIn part.toList cs

end ValueSchema.Format
