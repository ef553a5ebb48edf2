import Mathlib.Data.List.Basic

/-!
# Query strings

The pairs of a query string, as bytes. A pair with a semicolon or a malformed escape makes the whole
query invalid.
-/

namespace GcsSaker.UrlQuery

def bytes (s : String) : List UInt8 := s.toUTF8.data.toList

def unhex (c : UInt8) : Option UInt8 :=
  if 48 ≤ c ∧ c ≤ 57 then some (c - 48)
  else if 97 ≤ c ∧ c ≤ 102 then some (c - 97 + 10)
  else if 65 ≤ c ∧ c ≤ 70 then some (c - 65 + 10)
  else none

/-- `url.QueryUnescape`: a plus is a space and a percent sign starts two hexadecimal digits. -/
def queryUnescape : List UInt8 → Option (List UInt8)
  | [] => some []
  | 37 :: hi :: lo :: rest => do
    let hi ← unhex hi
    let lo ← unhex lo
    let rest ← queryUnescape rest
    some ((hi * 16 + lo) :: rest)
  | 37 :: _ => none
  | 43 :: rest => (queryUnescape rest).map fun rest => 32 :: rest
  | c :: rest => (queryUnescape rest).map fun rest => c :: rest

/-- `strings.Cut` at the first equals sign. -/
def cutPair (pair : List UInt8) : List UInt8 × List UInt8 :=
  (pair.takeWhile (· ≠ 61), (pair.dropWhile (· ≠ 61)).drop 1)

def parsePair (pair : List UInt8) : Option (List UInt8 × List UInt8) :=
  if 59 ∈ pair then none
  else do
    let key ← queryUnescape (cutPair pair).1
    let value ← queryUnescape (cutPair pair).2
    some (key, value)

/-- `url.ParseQuery`, which fails if any pair is malformed. -/
def parseQuery (query : List UInt8) : Option (List (List UInt8 × List UInt8)) :=
  ((query.splitOn 38).filter (· ≠ [])).mapM parsePair

/-- `Values.Get`: the first value of a key, or nothing. -/
def get (values : List (List UInt8 × List UInt8)) (key : List UInt8) : List UInt8 :=
  ((values.find? fun pair => decide (pair.1 = key)).map fun pair => pair.2).getD []

example : (parseQuery (bytes "a=1&token=x%2By+z&&token=w")).map (fun values => get values (bytes "token")) =
    some (bytes "x+y z") := by
  decide +kernel

end GcsSaker.UrlQuery
