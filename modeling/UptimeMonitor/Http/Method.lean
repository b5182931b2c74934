import UptimeMonitor.Text.LetterCase

/-!
# Request methods

- `supportedMethods`, `isSupportedMethod`: the methods that a script may use.
- `isTokenChar`: the characters of methods and header names.
-/

namespace UptimeMonitor.Http

/-- The methods that a script may use, in capitals. -/
def supportedMethods : List String := ["GET", "POST", "PUT", "DELETE", "PATCH", "HEAD"]

/-- The method is supported, in any letter case. -/
def isSupportedMethod (method : String) : Bool := supportedMethods.contains (Text.upper method)

/-- A character of a token: letters, digits and some marks of ASCII. -/
def isTokenChar (c : Char) : Bool :=
  c.isAlphanum || "!#$%&'*+-.^_`|~".toList.contains c

/-- A text that is sent as a method: one or more token characters. -/
def isMethodToken (s : String) : Bool := !s.isEmpty && s.toList.all isTokenChar

end UptimeMonitor.Http
