import BrokerGate.Url.Percent
import BrokerGate.Text.Split

/-! Paths of a URL as lists of segments, each written behind a slash. Dot segments are resolved
while a path is read; a segment that looks like a drive letter is never removed by one. -/
namespace BrokerGate.Url
open Text

abbrev Segment := List Char

def pathText (segments : List Segment) : List Char := segments.flatMap ('/' :: ·)

/-- A dot as it may be spelled in a segment. -/
def dotSpellings : List Segment := [".", "%2e", "%2E"].map String.toList

def isSingleDot (s : Segment) : Bool := dotSpellings.contains s

def isDoubleDot (s : Segment) : Bool :=
  dotSpellings.any fun a => dotSpellings.any fun b => a ++ b = s

def isDotSegment (s : Segment) : Bool := isSingleDot s || isDoubleDot s

def isDriveLetter : Segment → Bool
  | [c, d] => c.isAlpha && (d = ':' || d = '|')
  | _ => false

/-- `parents` holds the segments before, nearest first. -/
def dropParent : List Segment → List Segment
  | [] => []
  | s :: rest => if isDriveLetter s then s :: rest else rest

/-- Resolves dot segments. One at the end leaves an empty last segment. -/
def resolve (parents : List Segment) : List Segment → List Segment
  | [] => parents.reverse
  | [s] =>
    if isDoubleDot s then (([] : Segment) :: dropParent parents).reverse
    else if isSingleDot s then (([] : Segment) :: parents).reverse
    else (s :: parents).reverse
  | s :: t :: rest =>
    if isDoubleDot s then resolve (dropParent parents) (t :: rest)
    else if isSingleDot s then resolve parents (t :: rest)
    else resolve (s :: parents) (t :: rest)

/-- The raw segments of a text; in web schemes a backslash separates them too. -/
def rawSegments (special : Bool) (cs : List Char) : List Segment :=
  pieces '/' (if special then cs.map fun c => if c = '\\' then '/' else c else cs)

/-- The path that stands for a text after its leading slash. -/
def readSegments (special : Bool) (cs : List Char) : List Segment :=
  resolve [] ((rawSegments special cs).map (escape .path))

end BrokerGate.Url
