import Tugtainer.Python.IpAddress

/-!
# `urllib.parse.urlparse`

The scheme and the network location of a URL, and the host name and the port in it. What
the Unicode tables decide is a parameter: the lower case of a text and its NFKC form.
-/

namespace Python

/-- What is used of the Unicode tables. -/
structure Unicode where
  lower : String → String
  nfkc : String → String

/-- `ParseResult`, without the parts that come after the network location. -/
structure ParseResult where
  scheme : String
  netloc : List Char
  deriving DecidableEq, Repr

def isSchemeChar (c : Char) : Bool :=
  c.isAlphanum || c == '+' || c == '-' || c == '.'

def splitUrlScheme (url : List Char) : List Char × List Char :=
  match partition url ':' with
  | (scheme, true, rest) =>
      if scheme.head?.any Char.isAlpha && scheme.all isSchemeChar then
        (scheme.map Char.toLower, rest)
      else ([], url)
  | (_, false, _) => ([], url)

/-- `_splitnetloc`, where the URL goes on with `//`. -/
def splitNetloc (url : List Char) : List Char :=
  if url.take 2 = ['/', '/'] then (url.drop 2).takeWhile fun c => !(['/', '?', '#'].contains c)
  else []

/-- `_check_bracketed_host`: an IPv6 address or one of a future version. -/
def isBracketedHost (hostname : List Char) : Bool :=
  match hostname with
  | 'v' :: version =>
      let digits := version.takeWhile isHexDigit
      digits != [] && (version.drop digits.length).head? == some '.' &&
        digits.length + 1 < version.length
  | _ => isIpAddress (String.ofList hostname) && !isIpv4 hostname

def isBracketedNetloc (netloc : List Char) : Bool :=
  match partition (rpartition netloc '@').2.2 '[' with
  | (before, true, bracketed) =>
      let (hostname, _, port) := partition bracketed ']'
      before == [] && (port == [] || port.head? == some ':') && isBracketedHost hostname
  | (before, false, _) => isBracketedHost (partition before ':').1

/-- `_checknetloc`: no delimiter appears in the normal form. -/
def isNormalNetloc (U : Unicode) (netloc : List Char) : Bool :=
  netloc.all (·.toNat < 128) ||
    let n := String.ofList (netloc.filter fun c => !(['@', ':', '#', '?'].contains c))
    U.nfkc n == n || (U.nfkc n).toList.all fun c => !(['/', '?', '#', '@', ':'].contains c)

/-- `urlparse(url)`, or `none` where it raises a `ValueError`. -/
def urlparse (U : Unicode) (url : String) : Option ParseResult :=
  let url := (url.toList.dropWhile (·.toNat ≤ 32)).filter fun c => !(['\t', '\r', '\n'].contains c)
  let (scheme, rest) := splitUrlScheme url
  let netloc := splitNetloc rest
  if netloc.contains '[' == netloc.contains ']' &&
      (!netloc.contains '[' || isBracketedNetloc netloc) && isNormalNetloc U netloc then
    some { scheme := String.ofList scheme, netloc := netloc }
  else none

namespace ParseResult

variable (parsed : ParseResult)

/-- `_hostinfo`: the host name and the port, either of which may be empty. -/
def hostinfo : List Char × List Char :=
  match partition (rpartition parsed.netloc '@').2.2 '[' with
  | (_, true, bracketed) =>
      let (hostname, _, port) := partition bracketed ']'
      (hostname, (partition port ':').2.2)
  | (hostinfo, false, _) =>
      let (hostname, _, port) := partition hostinfo ':'
      (hostname, port)

/-- `parsed.hostname`. The zone of an IPv6 address keeps its case. -/
def hostname (U : Unicode) : Option String :=
  if parsed.hostinfo.1 = [] then none
  else
    let (hostname, percent, zone) := partition parsed.hostinfo.1 '%'
    some (U.lower (String.ofList hostname) ++ (if percent then "%" else "") ++ String.ofList zone)

/-- `parsed.port`, or `none` where it raises a `ValueError`. -/
def port : Option (Option ℕ) :=
  if parsed.hostinfo.2 = [] then some none
  else if parsed.hostinfo.2.all isDigit && decimal parsed.hostinfo.2 ≤ 65535 then
    some (some (decimal parsed.hostinfo.2))
  else none

end ParseResult

end Python
