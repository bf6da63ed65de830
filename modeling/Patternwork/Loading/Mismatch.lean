import Patternwork.Setting

namespace Patternwork

/-- What stands in a document. -/
inductive Found where
  | boolean (value : Bool)
  | integer (value : Int)
  /-- An integer beyond 64 bits. -/
  | wideInteger (value : Int)
  | double (digits : String)
  | text (value : String)
  | null
  | unit
  | sequence
  | map
  /-- A value with a tag of the document's own. -/
  | tagged
  deriving DecidableEq, Repr

/-- What a document should hold at some place. -/
inductive Expected where
  | record
  | name
  | value
  deriving DecidableEq, Repr

structure Mismatch where
  found : Found
  expected : Expected
  deriving DecidableEq, Repr

/-- Whether a character is shown as it is inside a quoted text. -/
def Found.showsPlainly (c : Char) : Bool :=
  !(c.toNat < 0x20 || (0x7f ≤ c.toNat && c.toNat < 0xa1) || c.toNat == 0xad ||
    (0x200b ≤ c.toNat && c.toNat ≤ 0x200f) || (0x2028 ≤ c.toNat && c.toNat ≤ 0x202f) ||
    (0x2060 ≤ c.toNat && c.toNat ≤ 0x206f) || (0x300 ≤ c.toNat && c.toNat ≤ 0x36f) ||
    c.toNat == 0x3000 || c.toNat == 0xfeff || (0xe000 ≤ c.toNat && c.toNat ≤ 0xf8ff) ||
    (0xfff0 ≤ c.toNat && c.toNat ≤ 0xfffb) || c.toNat == 0xfffe || c.toNat == 0xffff)

def Found.shown (c : Char) : List Char :=
  match c with
  | '"' => ['\\', '"']
  | '\\' => ['\\', '\\']
  | '\n' => ['\\', 'n']
  | '\r' => ['\\', 'r']
  | '\t' => ['\\', 't']
  | '\x00' => ['\\', '0']
  | c =>
    if showsPlainly c then [c]
    else ['\\', 'u', '\x7b'] ++ Nat.toDigits 16 c.toNat ++ ['\x7d']

def Found.description : Found → String
  | boolean b => "boolean `" ++ (if b then "true" else "false") ++ "`"
  | integer n => "integer `" ++ toString n ++ "`"
  | wideInteger n => "integer `" ++ toString n ++ (if n < 0 then "` as i128" else "` as u128")
  | double digits => "floating point `" ++ digits ++ "`"
  | text s => "string \"" ++ String.ofList (s.toList.flatMap shown) ++ "\""
  | null => "null"
  | unit => "unit value"
  | sequence => "sequence"
  | map => "map"
  | tagged => "enum"

def Expected.description : Expected → String
  | record => "a map of option names to values"
  | name => "a string"
  | value => "a boolean, number or string"

def Mismatch.message (mismatch : Mismatch) : String :=
  "invalid type: " ++ mismatch.found.description ++ ", expected " ++
    mismatch.expected.description

/-- Why a document could not be read as an option record. -/
inductive Unreadable where
  /-- The document breaks the rules of its format. -/
  | malformed
  | mismatch (mismatch : Mismatch)
  deriving DecidableEq, Repr

/-- Refuses what stands in a document where something else is expected. -/
def mismatch {α : Type} (found : Found) (expected : Expected) : Except Unreadable α :=
  .error (.mismatch ⟨found, expected⟩)

/-- Reads a part of a document, which is malformed if there is none. -/
def required {α : Type} (part : Option α) : Except Unreadable α :=
  part.elim (.error .malformed) .ok

end Patternwork
