import Mathlib.Tactic.SplitIfs
import Patternwork.Proofs.Notation.Lexeme
import Patternwork.Regular.Reader

namespace Patternwork.Regular

open Modes

variable {modes : Modes}

theorem lexeme_readLazy : Lexeme tails fun input => some (readLazy input) := by
  refine .peek (· == '?') rfl (fun _ => .pure false) (.pure true) ?_ fun input hlazy => ?_
  · intro c rest hc
    obtain rfl := beq_iff_eq.mp hc
    rfl
  · unfold readLazy
    split
    · simp at hlazy
    · rfl

theorem digits_eq (modes : Modes) (fuel : Nat) (taken input : List Char) :
    readCount.digits modes fuel (taken.map fun c => c.toNat - '0'.toNat) input =
      let (taken, rest) := modes.takeWhile Char.isDigit fuel taken input
      (taken.map fun c => c.toNat - '0'.toNat, rest) := by
  induction fuel generalizing taken input with
  | zero => rfl
  | succ fuel ih =>
    cases input with
    | nil => rfl
    | cons c rest =>
      rw [readCount.digits, takeWhile]
      split_ifs
      · exact ih (c :: taken) (modes.skip rest)
      · rfl

theorem skipBlanks_eq (modes : Modes) (fuel : Nat) (taken input : List Char) :
    readCount.skipBlanks modes fuel input =
      (modes.takeWhile Unicode.isBlank fuel taken input).2 := by
  induction fuel generalizing taken input with
  | zero => rfl
  | succ fuel ih =>
    cases input with
    | nil => rfl
    | cons c rest =>
      rw [readCount.skipBlanks, takeWhile]
      split_ifs
      · exact ih (c :: taken) (modes.skip rest)
      · rfl

/-- The number that digits make, latest first, if there are any and it has at most 32 bits. -/
def count? (digits : List Nat) : Option Nat :=
  if digits.isEmpty then none
  else
    let value := digits.reverse.foldl (fun n d => min (n * 10 + d) (Nat.pow 2 32)) 0
    if value < Nat.pow 2 32 then some value else none

theorem lexeme_digits (modes : Modes) :
    Lexeme tails fun input =>
      some (readCount.digits modes (input.length + 1) [] (input.dropWhile Unicode.isBlank)) := by
  have hblanks : Lexeme tails fun input => some ((), input.dropWhile Unicode.isBlank) := by
    refine .ofAppend (fun hread => ?_) fun input more _ _ => ?_
    · obtain ⟨_, rfl⟩ := Prod.mk.inj (Option.some.inj hread)
      exact List.dropWhile_suffix _
    · rw [List.dropWhile_append]
      split
      next hblank =>
        rw [List.isEmpty_iff.mp hblank]
        rfl
      next => rfl
  have htaken := (modes.lexeme_takeWhile Char.isDigit (by decide) []).map fun taken =>
    taken.map fun c => c.toNat - '0'.toNat
  refine (hblanks.bind fun _ => htaken).congr fun input => ?_
  have hle := (List.dropWhile_suffix Unicode.isBlank (l := input)).length_le
  have hdigits := digits_eq modes (input.length + 1) []
    (input.dropWhile Unicode.isBlank)
  rw [List.map_nil, takeWhile_eq_of_lt (Nat.lt_succ_of_le hle) (Nat.lt_succ_self _)] at hdigits
  rw [hdigits]
  rfl

theorem lexeme_readCount (modes : Modes) : Lexeme tails (readCount modes) := by
  have hend : Lexeme tails fun input =>
      some ((), readCount.skipBlanks modes (input.length + 1) input) := by
    refine ((modes.lexeme_takeWhile Unicode.isBlank rfl []).map fun _ => ()).congr fun input => ?_
    rw [skipBlanks_eq modes _ []]
    rfl
  refine (((lexeme_digits modes).bind? count?).bind fun value => hend.map fun _ => value).congr
    fun input => ?_
  unfold readCount
  generalize readCount.digits modes (input.length + 1) [] (input.dropWhile Unicode.isBlank) = found
  obtain ⟨digits, rest⟩ := found
  simp only [Option.bind_some, count?]
  split_ifs <;> rfl

/-- The upper bound of a counted quantifier, if there is one. -/
def readUpper (modes : Modes) : Scan (Option Nat)
  | '\x7d' :: rest => some (none, '\x7d' :: rest)
  | rest => (readCount modes rest).map fun read => (some read.1, read.2)

theorem lexeme_readUpper (modes : Modes) : Lexeme tails (readUpper modes) := by
  refine .keep (· == '\x7d') none rfl ((lexeme_readCount modes).map some) ?_ fun input hbrace => ?_
  · intro c rest hc
    obtain rfl := beq_iff_eq.mp hc
    rfl
  · unfold readUpper
    split
    · simp at hbrace
    · rfl

/-- The upper bound of a counted quantifier, which is the lower one without a comma. -/
def readGreatest (modes : Modes) (least : Nat) : Scan (Option Nat)
  | ',' :: rest => readUpper modes (modes.skip rest)
  | rest => some (some least, rest)

theorem lexeme_readGreatest (modes : Modes) (least : Nat) :
    Lexeme tails (readGreatest modes least) := by
  refine .peek (· == ',') rfl (fun _ => modes.lexeme_skip_then (lexeme_readUpper modes))
    (.pure (some least)) ?_ fun input hcomma => ?_
  · intro c rest hc
    obtain rfl := beq_iff_eq.mp hc
    rfl
  · unfold readGreatest
    split
    · simp at hcomma
    · rfl

/-- The brace that closes a counted quantifier, and the mark after it. -/
def readBrace (modes : Modes) (least : Nat) (greatest : Option Nat) :
    Scan (Nat × Option Nat × Bool)
  | [] => none
  | c :: rest =>
    if c = '\x7d' ∧ greatest.all (least ≤ ·) then
      some ((least, greatest, (readLazy (modes.skip rest)).1), (readLazy (modes.skip rest)).2)
    else none

theorem lexeme_readBrace (modes : Modes) (least : Nat) (greatest : Option Nat) :
    Lexeme tails (readBrace modes least greatest) := by
  refine .cons rfl fun c => ?_
  simp only [readBrace]
  split_ifs
  · exact (modes.lexeme_skip_then lexeme_readLazy).map fun greedy => (least, greatest, greedy)
  · exact .fail

/-- The end of a counted quantifier, with all that has been read of it. -/
def closeBounds (modes : Modes) (least : Nat) (greatest : Option Nat) (input : List Char) :
    Option (Nat × Option Nat × Bool × List Char) :=
  match input with
  | '\x7d' :: rest =>
    let (greedy, rest) := match modes.skip rest with
      | '?' :: rest => (false, rest)
      | rest => (true, rest)
    if greatest.all (least ≤ ·) then some (least, greatest, greedy, rest) else none
  | _ => none

theorem closeBounds_eq (modes : Modes) (least : Nat) (greatest : Option Nat) (input : List Char) :
    (closeBounds modes least greatest input).map
        (fun read => ((read.1, read.2.1, read.2.2.1), read.2.2.2)) =
      readBrace modes least greatest input := by
  rcases input with _ | ⟨c, rest⟩
  · rfl
  by_cases hc : c = '\x7d'
  · subst hc
    cases hall : greatest.all (least ≤ ·) with
    | false => simp [closeBounds, readBrace, hall]
    | true =>
      simp only [closeBounds, readBrace, hall, and_self, reduceIte]
      rfl
  · simp [closeBounds, readBrace, hc]

theorem readBounds_eq (modes : Modes) (input : List Char) :
    readBounds modes input =
      (readCount modes (modes.skip input)).bind fun least =>
        (readGreatest modes least.1 least.2).bind fun greatest =>
          closeBounds modes least.1 greatest.1 greatest.2 := by
  unfold readBounds
  cases readCount modes (modes.skip input) with
  | none => rfl
  | some found =>
    obtain ⟨least, rest⟩ := found
    rcases rest with _ | ⟨c, rest⟩
    · rfl
    by_cases hc : c = ','
    · subst hc
      simp only [readGreatest, Option.bind_eq_bind, Option.bind_some]
      generalize modes.skip rest = input
      rcases input with _ | ⟨d, after⟩
      · rfl
      by_cases hd : d = '\x7d'
      · subst hd
        rfl
      · simp [readUpper, hd]
        rfl
    · simp only [readGreatest, List.cons.injEq, hc, false_and, imp_false, not_false_eq_true,
        implies_true, Option.bind_eq_bind, Option.bind_some]
      rfl

theorem lexeme_readBounds (modes : Modes) :
    Lexeme tails fun input =>
      (readBounds modes input).map fun read => ((read.1, read.2.1, read.2.2.1), read.2.2.2) := by
  refine ((modes.lexeme_skip_then (lexeme_readCount modes)).bind fun least =>
    (lexeme_readGreatest modes least).bind fun greatest =>
      lexeme_readBrace modes least greatest).congr fun input => ?_
  simp only [readBounds_eq, Option.map_bind, Function.comp_def, closeBounds_eq]

end Patternwork.Regular
