/-!
# Spans of code points

Properties and mappings of characters are kept as lists of spans in increasing order. A span is an
arithmetic progression, because the letters of many scripts alternate between their two cases.
-/

namespace TypedPrefs.Text

/-- The code points `first`, `first + step`, and so on up to `last`. -/
structure Span where
  first : Nat
  last : Nat
  step : Nat
  deriving Repr, DecidableEq

/-- Whether a code point belongs to one of the spans. They are in increasing order, so the search
stops at the first span that ends at or after the code point. -/
def inSpans : List Span → Nat → Bool
  | [], _ => false
  | s :: rest, c =>
    if c ≤ s.last then s.first ≤ c && (c - s.first) % s.step == 0 else inSpans rest c

/-- A span of code points whose images under a mapping keep their distances: the image of
`span.first` is `image`. -/
structure CaseRun where
  span : Span
  image : Nat
  deriving Repr, DecidableEq

/-- The image of a code point under the runs, if one of them covers it. -/
def imageIn : List CaseRun → Nat → Option Nat
  | [], _ => none
  | r :: rest, c =>
    if c ≤ r.span.last then
      if r.span.first ≤ c && (c - r.span.first) % r.span.step == 0 then
        some (r.image + (c - r.span.first))
      else none
    else imageIn rest c

end TypedPrefs.Text
