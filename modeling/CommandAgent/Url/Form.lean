import CommandAgent.Url.Percent

/-!
# Form encoding

The query of a URL holds pairs of names and values, separated by ampersands. A plus sign stands for
a blank, and bytes that are no text are replaced.
-/

namespace CommandAgent.Url

/-- The text behind a form-encoded one. -/
def formDecode (cs : List Char) : String :=
  Text.Utf8.decodeLossy (decodeBytes (cs.map fun c => if c = '+' then ' ' else c))

/-- A name with its value, which is empty where there is no equals sign. -/
def formPair (cs : List Char) : String × String :=
  (formDecode (cs.takeWhile (· != '=')), formDecode ((cs.dropWhile (· != '=')).drop 1))

/-- The pairs of a query. -/
def formPairs (query : String) : List (String × String) :=
  ((query.toList.splitOn '&').filter (!·.isEmpty)).map formPair

end CommandAgent.Url
