import Patternwork.Unicode.Ranges
import Patternwork.Yaml.Scalar.Gap

namespace Patternwork.Yaml

/-- The two kinds of quotes. -/
inductive Quote where
  | single
  | double
  deriving DecidableEq, Repr

namespace Quote

def char : Quote → Char
  | single => '\''
  | double => '"'

/-- What follows a backslash between double quotes. -/
inductive Escape where
  | char (c : Char)
  /-- The number of a character in so many hexadecimal digits. -/
  | number (digits : Nat)
  deriving DecidableEq, Repr

def Escape.ofChar? : Char → Option Escape
  | '0' => some (.char '\x00')
  | 'a' => some (.char '\x07')
  | 'b' => some (.char '\x08')
  | 't' | '\t' => some (.char '\t')
  | 'n' => some (.char '\n')
  | 'v' => some (.char '\x0b')
  | 'f' => some (.char '\x0c')
  | 'r' => some (.char '\r')
  | 'e' => some (.char '\x1b')
  | ' ' => some (.char ' ')
  | '"' => some (.char '"')
  | '/' => some (.char '/')
  | '\\' => some (.char '\\')
  | 'N' => some (.char '\x85')
  | '_' => some (.char '\xa0')
  | 'L' => some (.char '\u2028')
  | 'P' => some (.char '\u2029')
  | 'x' => some (.number 2)
  | 'u' => some (.number 4)
  | 'U' => some (.number 8)
  | _ => none

def readHex (value : Nat) : Nat → Passage → Option (Nat × Passage)
  | 0, passage => some (value, passage)
  | _ + 1, [] => none
  | digits + 1, q :: rest => do readHex (value * 16 + (← hexDigit? q.char)) digits rest

/-- How a word between quotes ends. -/
inductive WordEnd where
  | closed
  | spacing
  /-- A backslash hides the end of the line. -/
  | hiddenBreak
  deriving DecidableEq, Repr

/-- Reads a word in front of what is collected, last character first. Every round
    takes at least one character. -/
def readWord (quote : Quote) :
    Nat → List Char → Passage → Option (List Char × WordEnd × Passage)
  | 0, _, _ => none
  | _, _, [] => none
  | fuel + 1, text, q :: rest =>
    if isSpacing q.char then some (text, .spacing, q :: rest)
    else if q.char = quote.char then
      match quote, rest with
      | single, r :: more =>
        if r.char = '\'' then quote.readWord fuel ('\'' :: text) more
        else some (text, .closed, rest)
      | _, _ => some (text, .closed, rest)
    else if quote = double ∧ q.char = '\\' then
      match rest with
      | [] => none
      | r :: more =>
        if isBreak r.char then some (text, .hiddenBreak, more)
        else
          match Escape.ofChar? r.char with
          | none => none
          | some (.char c) => quote.readWord fuel (c :: text) more
          | some (.number digits) => do
            let (n, more) ← readHex 0 digits more
            if n.isValidChar then quote.readWord fuel (Char.ofNat n :: text) more else none
    else quote.readWord fuel (q.char :: text) rest

def readWords (quote : Quote) : Nat → List Char → Passage → Option (String × Passage)
  | 0, _, _ => none
  | fuel + 1, text, passage =>
    if passage.atBound then none
    else do
      let (text, wordEnd, rest) ← quote.readWord (passage.length + 1) text passage
      match wordEnd with
      | .closed => some (String.ofList text.reverse, rest)
      | .spacing =>
        let (gap, rest) ← Gap.read 0 rest
        quote.readWords fuel (gap.text.reverse ++ text) rest
      | .hiddenBreak =>
        if rest.starts (· == '"') then some (String.ofList text.reverse, rest.drop 1)
        else
          let (breaks, rest) ← Gap.readBreaks 0 [] rest
          quote.readWords fuel (breaks.reverse ++ text) rest

/-- Reads the rest of a quoted scalar after its opening quote. -/
def read (quote : Quote) (passage : Passage) : Option (String × Passage) :=
  quote.readWords (passage.length + 1) [] passage

end Quote

end Patternwork.Yaml
