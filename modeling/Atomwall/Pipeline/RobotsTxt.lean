import Atomwall.Config.RuntimeConfig

/-! `pipeline/robots_txt.cpp`: the robots.txt text that advertises the fake routes. -/

namespace Atomwall

def isSpace (c : Char) : Bool := c == ' ' || ('\t' ≤ c && c ≤ '\r')

def trim (s : List Char) : List Char := ((s.dropWhile isSpace).reverse.dropWhile isSpace).reverse

def isWildcardUserAgentLine (line : List Char) : Bool :=
  let trimmed := trim line
  match trimmed.dropWhile (· != ':') with
  | [] => false
  | _ :: value =>
    (trim (trimmed.takeWhile (· != ':'))).map Char.toLower == "user-agent".toList &&
      trim value == ['*']

/-- What `std::getline` reads until the end: a last line that is empty is none. -/
def splitLines (text : List Char) : List (List Char) :=
  let lines := text.splitOn '\n'
  if lines.getLast? = some [] then lines.dropLast else lines

def unlines (lines : List (List Char)) : List Char := lines.flatMap (· ++ ['\n'])

def buildRobotsTxtBody (base : String) (fakeRoutes : List BlacklistEntry) : String :=
  if fakeRoutes.isEmpty then base
  else
    let disallowLines := fakeRoutes.map fun route => "Disallow: ".toList ++ route.value.toList
    if base = "" then String.ofList (unlines ("User-agent: *".toList :: disallowLines))
    else
      let lines := splitLines base.toList
      let endsWithNewline := base.toList.getLast? == some '\n'
      match lines.findIdx? isWildcardUserAgentLine with
      | some it =>
        let out := unlines (lines.take (it + 1) ++ disallowLines ++ lines.drop (it + 1))
        String.ofList (if endsWithNewline then out else out.dropLast)
      | none =>
        String.ofList (unlines (lines ++ [[], "User-agent: *".toList] ++ disallowLines))

end Atomwall
