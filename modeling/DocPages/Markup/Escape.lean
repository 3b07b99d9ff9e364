/-!
# Escaping text for markup

`escapeText` escapes the three characters that mean something between tags, `escapeQuoted` the
double quote as well, by its name, and `escapeAttribute` both quotes, by their numbers.
-/

namespace DocPages.Markup

/-- A character between tags. -/
def escapeChar (c : Char) : List Char :=
  if c = '&' then "&amp;".toList
  else if c = '<' then "&lt;".toList
  else if c = '>' then "&gt;".toList
  else [c]

/-- Text between tags. -/
def escapeText (s : String) : String :=
  String.ofList (s.toList.flatMap escapeChar)

/-- A character between double quotes, or of code between fences. -/
def escapeQuotedChar (c : Char) : List Char :=
  if c = '"' then "&quot;".toList else escapeChar c

/-- Text between double quotes, or code between fences. -/
def escapeQuoted (s : String) : String :=
  String.ofList (s.toList.flatMap escapeQuotedChar)

/-- A character in the value of an attribute. -/
def escapeAttributeChar (c : Char) : List Char :=
  if c = '"' then "&#34;".toList
  else if c = '\'' then "&#39;".toList
  else escapeChar c

/-- The value of an attribute. -/
def escapeAttribute (s : String) : String :=
  String.ofList (s.toList.flatMap escapeAttributeChar)

end DocPages.Markup
