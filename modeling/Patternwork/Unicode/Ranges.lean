namespace Patternwork

/-- The value of a hexadecimal digit, in letters of either case. -/
def hexDigit? (c : Char) : Option Nat :=
  if '0' ≤ c ∧ c ≤ '9' then some (c.toNat - '0'.toNat)
  else if 'a' ≤ c ∧ c ≤ 'f' then some (c.toNat - 'a'.toNat + 10)
  else if 'A' ≤ c ∧ c ≤ 'F' then some (c.toNat - 'A'.toNat + 10)
  else none

namespace Unicode

def codeSpace : Nat := 0x110000

def innerDigit (c : Char) : Nat :=
  if c.isDigit then c.toNat - '0'.toNat else c.toNat - 'a'.toNat + 10

def lastDigit? (c : Char) : Option Nat :=
  if 'A' ≤ c ∧ c ≤ 'Z' then some (c.toNat - 'A'.toNat)
  else
    match c with
    | '+' => some 26
    | '*' => some 27
    | '=' => some 28
    | '.' => some 29
    | ':' => some 30
    | ';' => some 31
    | _ => none

/-- Reads the numbers of one line, latest first; `part` is the number being read. -/
def readNumbers : Nat → List Nat → List Char → List Nat
  | _, numbers, [] => numbers
  | part, numbers, c :: rest =>
    match lastDigit? c with
    | some d => readNumbers 0 ((part * 32 + d) :: numbers) rest
    | none => readNumbers (part * 32 + innerDigit c) numbers rest

/-- The numbers kept in the lines of a table. A number may go on from one line to
    the next. -/
def numbers (lines : List String) : List Nat :=
  (readNumbers 0 [] (lines.flatMap String.toList)).reverse

/-- A sorted table of disjoint ranges, each with its least and greatest member. -/
structure Ranges where
  ranges : Array (Nat × Nat)
  deriving Inhabited

namespace Ranges

/-- Looks for the range that holds `code` among those from `low` to below `high`. -/
def search (table : Array (Nat × Nat)) (code : Nat) : Nat → Nat → Nat → Bool
  | 0, _, _ => false
  | fuel + 1, low, high =>
    if low < high then
      let middle := (low + high) / 2
      match table[middle]? with
      | none => false
      | some (least, greatest) =>
        if code < least then search table code fuel low middle
        else if greatest < code then search table code fuel (middle + 1) high
        else true
    else false

def contains (table : Ranges) (code : Nat) : Bool :=
  search table.ranges code (table.ranges.size.log2 + 2) 0 table.ranges.size

/-- The ranges between bounds given as distances: in, out, in, out. -/
def ofDistances (start : Nat) : List Nat → List (Nat × Nat)
  | [] => []
  | [distance] => [(start + distance, codeSpace - 1)]
  | a :: b :: rest => (start + a, start + a + b - 1) :: ofDistances (start + a + b) rest

def ofBounds (lines : List String) : Ranges :=
  ⟨(ofDistances 0 (numbers lines)).toArray⟩

/-- Merges two lists of ranges that are sorted by their least members. -/
def merge : List (Nat × Nat) → List (Nat × Nat) → List (Nat × Nat)
  | [], bs => bs
  | as, [] => as
  | a :: as, b :: bs =>
    if a.1 ≤ b.1 then a :: merge as (b :: bs) else b :: merge (a :: as) bs
  termination_by as bs => as.length + bs.length

def join : List (Nat × Nat) → List (Nat × Nat)
  | [] => []
  | range :: rest =>
    match join rest with
    | [] => [range]
    | next :: more =>
      if next.1 ≤ range.2 + 1 then (range.1, max range.2 next.2) :: more
      else range :: next :: more

def within (table : Ranges) (limit : Nat) : Bool :=
  table.ranges.all fun range => range.2 < limit

end Ranges

/-- A property whose values are numbered, as the sorted starts of the runs of equal
    value. -/
structure Runs where
  starts : Array (Nat × Nat)
  deriving Inhabited

namespace Runs

def ofDistances (start : Nat) : List Nat → List (Nat × Nat)
  | distance :: value :: rest => (start + distance, value) :: ofDistances (start + distance) rest
  | _ => []

def ofLines (lines : List String) : Runs :=
  ⟨(ofDistances 0 (numbers lines)).toArray⟩

/-- The ranges on which the value is one that `wanted` accepts. -/
def select (wanted : Nat → Bool) : List (Nat × Nat) → List (Nat × Nat)
  | [] => []
  | [(start, value)] => if wanted value then [(start, codeSpace - 1)] else []
  | (start, value) :: (next, other) :: rest =>
    if wanted value then (start, next - 1) :: select wanted ((next, other) :: rest)
    else select wanted ((next, other) :: rest)

/-- The code points whose value is one that `wanted` accepts. -/
def ranges (runs : Runs) (wanted : Nat → Bool) : Ranges :=
  ⟨(Ranges.join (select wanted runs.starts.toList)).toArray⟩

end Runs

end Unicode

end Patternwork
