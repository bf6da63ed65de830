import Mathlib.Tactic.SplitIfs
import Patternwork.Notation.Escape
import Patternwork.Proofs.Notation.Lexeme

namespace Patternwork.Escape

open Modes

variable {modes : Modes}

theorem lexeme_readHexFixed (modes : Modes) (count code : Nat) :
    Lexeme tails (readHexFixed modes count code) := by
  induction count generalizing code with
  | zero => exact .pure code
  | succ count ih =>
    refine .cons rfl fun c => ?_
    cases hdigit : hexDigit? c with
    | none => exact Lexeme.fail.congr fun rest => by simp [readHexFixed, hdigit]
    | some digit =>
      refine (modes.lexeme_skip_then (ih (code * 16 + digit))).congr fun rest => ?_
      simp [readHexFixed, hdigit]

/-- One digit in braces, or the closing brace. -/
def hexBracedStep (modes : Modes) (state : Nat × Nat) (c : Char) : Scan ((Nat × Nat) ⊕ Nat) :=
  if c = '\x7d' then
    if state.1 = 0 then fun _ => none else fun rest => some (.inr state.2, modes.skip rest)
  else
    match hexDigit? c with
    | none => fun _ => none
    | some d => fun rest =>
      some (.inl (state.1 + 1, min (state.2 * 16 + d) 0x110000), modes.skip rest)

theorem lexeme_hexBracedStep (modes : Modes) (state : Nat × Nat) (c : Char) :
    Lexeme tails (hexBracedStep modes state c) := by
  unfold hexBracedStep
  split_ifs
  · exact .fail
  · exact modes.lexeme_skip_then (.pure _)
  · split
    · exact .fail
    · exact modes.lexeme_skip_then (.pure _)

theorem readHexBraced_eq (fuel : Nat) (state : Nat × Nat) (input : List Char) :
    readHexBraced modes fuel state.1 state.2 input =
      Scan.loop (Scan.each (hexBracedStep modes)) fuel state input := by
  induction fuel generalizing state input with
  | zero => rfl
  | succ fuel ih =>
    rw [Scan.loop]
    cases input with
    | nil => rfl
    | cons c rest =>
      rw [readHexBraced, Scan.each, hexBracedStep]
      split_ifs
      · rfl
      · rfl
      · cases hexDigit? c with
        | none => rfl
        | some d => exact ih (state.1 + 1, min (state.2 * 16 + d) 0x110000) _

theorem lexeme_readHexBraced (modes : Modes) :
    Lexeme tails fun input => readHexBraced modes (input.length + 1) 0 0 (modes.skip input) :=
  (modes.lexeme_loop_skip (lexeme_hexBracedStep modes) (0, 0)).congr fun _ =>
    readHexBraced_eq _ (0, 0) _

/-- Digits in braces, or as many as are called for; yields whether there were none. -/
def readDigits (modes : Modes) (count : Nat) : Scan (Nat × Bool)
  | '\x7b' :: rest =>
    (readHexBraced modes (rest.length + 1) 0 0 (modes.skip rest)).map fun read =>
      ((read.1, false), read.2)
  | rest => (readHexFixed modes count 0 rest).map fun read => ((read.1, true), read.2)

theorem lexeme_readDigits (modes : Modes) (count : Nat) :
    Lexeme tails (readDigits modes count) := by
  refine .peek (· == '\x7b') rfl
    (fun _ => (lexeme_readHexBraced modes).map fun code => (code, false))
    ((lexeme_readHexFixed modes count 0).map fun code => (code, true)) ?_ fun input hkind => ?_
  · rintro c rest hc
    obtain rfl := beq_iff_eq.mp hc
    rfl
  · unfold readDigits
    split
    · simp at hkind
    · rfl

theorem readHex_eq (count : Nat) (input : List Char) :
    readHex modes count input =
      (readDigits modes count (modes.skip input)).map fun read =>
        (read.1.1, read.1.2, read.2) := by
  unfold readHex
  generalize modes.skip input = before
  unfold readDigits
  split <;> simp [Option.map_map, Function.comp_def]

/-- One character of a property name, or the closing brace. -/
def propertyNameStep (modes : Modes) (name : List Char) (c : Char) :
    Scan (List Char ⊕ List Char) :=
  if c = '\x7d' then fun rest => some (.inr name.reverse, rest)
  else fun rest => some (.inl (c :: name), modes.skip rest)

theorem lexeme_propertyNameStep (modes : Modes) (name : List Char) (c : Char) :
    Lexeme tails (propertyNameStep modes name c) := by
  unfold propertyNameStep
  split_ifs
  · exact .pure _
  · exact modes.lexeme_skip_then (.pure _)

theorem readPropertyName_eq (fuel : Nat) (name input : List Char) :
    readPropertyName modes fuel name input =
      Scan.loop (Scan.each (propertyNameStep modes)) fuel name input := by
  induction fuel generalizing name input with
  | zero => rfl
  | succ fuel ih =>
    rw [Scan.loop]
    cases input with
    | nil => rfl
    | cons c rest =>
      rw [readPropertyName, Scan.each, propertyNameStep]
      split_ifs
      · rfl
      · exact ih _ _

theorem lexeme_readPropertyName (modes : Modes) :
    Lexeme tails fun input => readPropertyName modes (input.length + 1) [] (modes.skip input) :=
  (modes.lexeme_loop_skip (lexeme_propertyNameStep modes) []).congr fun _ =>
    readPropertyName_eq _ _ _

/-- The ranges of a property, by its letter or by its name in braces. -/
def readRanges (modes : Modes) (input : List Char) : Option (Unicode.Ranges × List Char) :=
  match input with
  | '\x7b' :: rest => do
    let (name, rest) ← readPropertyName modes (rest.length + 1) [] (modes.skip rest)
    some (← propertyRanges? name, rest)
  | '\\' :: _ => none
  | c :: rest => do
    some (← Unicode.categoryNamed? (Unicode.lookupName (String.singleton c)), modes.skip rest)
  | [] => none

theorem lexeme_readRanges (modes : Modes) : Lexeme tails (readRanges modes) := by
  refine .cons rfl fun c => ?_
  by_cases hbrace : c = '\x7b'
  · subst hbrace
    refine ((lexeme_readPropertyName modes).bind? propertyRanges?).congr fun rest => ?_
    simp only [readRanges, Option.bind_eq_bind]
    exact Option.bind_congr fun read _ => Option.map_eq_bind.symm
  · by_cases hescape : c = '\\'
    · subst hescape
      exact .fail
    · let named := Unicode.categoryNamed? (Unicode.lookupName (String.singleton c))
      refine (modes.lexeme_skip_then (.ofOption named id)).congr fun rest => ?_
      simp only [readRanges, Option.bind_eq_bind]
      exact Option.map_eq_bind.symm

/-- The set of a property, or of its complement. -/
def propertySet? (modes : Modes) (negated : Bool) (ranges : Unicode.Ranges) : Option Escape :=
  if modes.unicode then
    let set := modes.folded (.table ranges)
    some (members (if negated then .compl set else set))
  else none

theorem readProperty_eq (modes : Modes) (negated : Bool) (input : List Char) :
    readProperty modes negated input =
      (readRanges modes (modes.skip input)).bind fun read =>
        (propertySet? modes negated read.1).map fun escape => (escape, read.2) := by
  unfold readProperty readRanges propertySet?
  generalize modes.skip input = before
  cases hunicode : modes.unicode <;>
    simp only [Bool.false_eq_true, reduceIte, Option.map_none, Option.map_some] <;>
    split <;> simp [Option.bind_assoc]

theorem lexeme_readProperty (modes : Modes) (negated : Bool) :
    Lexeme tails (readProperty modes negated) :=
  (modes.lexeme_skip_then ((lexeme_readRanges modes).bind? (propertySet? modes negated))).congr
    (readProperty_eq modes negated)

theorem readEdgeName_eq (fuel : Nat) (name input : List Char) :
    readEdgeName modes fuel name input =
      ((modes.takeWhile isEdgeLetter fuel name input).1.reverse,
        (modes.takeWhile isEdgeLetter fuel name input).2) := by
  induction fuel generalizing name input with
  | zero => rfl
  | succ fuel ih =>
    cases input with
    | nil => rfl
    | cons c rest =>
      rw [readEdgeName, takeWhile]
      split_ifs
      · exact ih _ _
      · rfl

/-- The edge that a name in braces stands for, latest character first. -/
def closeEdge (taken : List Char) : Scan WordEdge
  | [] => none
  | c :: rest =>
    if c = '\x7d' then (edgeNamed? (String.ofList taken.reverse)).map fun edge => (edge, rest)
    else none

theorem lexeme_closeEdge (taken : List Char) : Lexeme tails (closeEdge taken) := by
  refine .cons rfl fun c => ?_
  unfold closeEdge
  by_cases hbrace : c = '\x7d'
  · cases edgeNamed? (String.ofList taken.reverse) with
    | none => exact Lexeme.fail.congr fun rest => by simp
    | some edge => exact (Lexeme.pure edge).congr fun rest => by simp [hbrace]
  · exact Lexeme.fail.congr fun rest => by simp [hbrace]

/-- The name of an edge, and the brace after it. -/
def readEdgeNamed (modes : Modes) (input : List Char) : Option (WordEdge × List Char) :=
  let (taken, rest) := modes.takeWhile isEdgeLetter (input.length + 1) [] input
  closeEdge taken rest

theorem lexeme_readEdgeNamed (modes : Modes) : Lexeme tails (readEdgeNamed modes) :=
  (modes.lexeme_takeWhile isEdgeLetter rfl []).bind lexeme_closeEdge

theorem readEdgeNamed_eq (modes : Modes) (input : List Char) :
    readEdgeNamed modes input =
      match readEdgeName modes (input.length + 1) [] input with
      | (name, '\x7d' :: rest) => (edgeNamed? (String.ofList name)).map fun edge => (edge, rest)
      | _ => none := by
  rw [readEdgeName_eq, readEdgeNamed]
  generalize modes.takeWhile isEdgeLetter (input.length + 1) [] input = taken
  obtain ⟨taken, rest⟩ := taken
  cases rest with
  | nil => rfl
  | cons c rest =>
    by_cases hbrace : c = '\x7d'
    · subst hbrace
      rfl
    · simp [closeEdge, hbrace]

theorem readEdge_brace (modes : Modes) (rest : List Char) :
    readEdge modes ('\x7b' :: rest) =
      match modes.skip rest with
      | [] => none
      | c :: after =>
        if isEdgeLetter c then readEdgeNamed modes (c :: after)
        else some (.boundary, '\x7b' :: rest) := by
  simp only [readEdge]
  cases modes.skip rest with
  | nil => rfl
  | cons c after =>
    dsimp only
    rw [readEdgeNamed_eq]
    rfl

/-- Whether a brace begins nothing that can be read: the text ends, or a group is closed. -/
def isDeadBrace (modes : Modes) : List Char → Bool
  | '\x7b' :: rest => (modes.skip rest).head?.all (· == ')')
  | _ => false

/-- Reads an edge, unless it comes before a brace that begins nothing. -/
def readLiveEdge (modes : Modes) (input : List Char) : Option (WordEdge × List Char) :=
  if isDeadBrace modes input then none else readEdge modes input

theorem lexeme_readLiveEdge (modes : Modes) : Lexeme tails (readLiveEdge modes) := by
  refine modes.lexeme_lookahead '\x7b' (fun c => c != ')' && !isEdgeLetter c) (some .boundary)
    (by decide) rfl (lexeme_readEdgeNamed modes) rfl (.pure .boundary) (fun rest => ?_)
    fun input hbrace => ?_
  · rw [readLiveEdge, readEdge_brace]
    cases hskip : modes.skip rest with
    | nil =>
      simp only [isDeadBrace, hskip]
      rfl
    | cons c after =>
      by_cases hclose : c = ')'
      · subst hclose
        simp only [isDeadBrace, hskip]
        rfl
      · cases hletter : isEdgeLetter c <;> simp [isDeadBrace, hskip, hclose, hletter]
  · cases input with
    | nil => rfl
    | cons c rest =>
      have hc : c ≠ '\x7b' := fun hc => hbrace (by simp [hc])
      simp [readLiveEdge, isDeadBrace, readEdge, hc]

/-- The character that digits stand for. -/
def hexLiteral? (modes : Modes) (count : Nat) (digits : Nat × Bool) : Option Escape :=
  (scalar? digits.1).bind fun value =>
    if !modes.unicode && digits.2 && count == 2 && 0x7f < digits.1 then none
    else some (literal value)

theorem lexeme_hexLiteral (modes : Modes) (count : Nat) :
    Lexeme tails fun input =>
      (readHex modes count input).bind fun read =>
        (scalar? read.1).bind fun value =>
          if !modes.unicode && read.2.1 && count == 2 && 0x7f < read.1 then none
          else some (literal value, read.2.2) := by
  refine (modes.lexeme_skip_then ((lexeme_readDigits modes count).bind? (hexLiteral? modes count))
    ).congr fun input => ?_
  rw [readHex_eq, Option.bind_map]
  congr 1
  funext ⟨digits, rest⟩
  cases hvalue : scalar? digits.1 with
  | none => simp [hexLiteral?, hvalue]
  | some value =>
    simp only [Function.comp_apply, hexLiteral?, hvalue, Option.bind_some]
    split_ifs <;> rfl

/-- Every escape but the one that may be followed by braces. -/
theorem lexeme_read_of_ne (modes : Modes) {c : Char} (hedge : c ≠ 'b') :
    Lexeme tails fun rest => read modes (c :: rest) := by
  simp only [read]
  split
  case h_1 | h_2 | h_3 => exact lexeme_hexLiteral modes _
  case h_4 | h_5 => exact lexeme_readProperty modes _
  case h_20 => exact absurd rfl hedge
  case h_24 =>
    split_ifs
    · exact .pure _
    · exact .fail
  case h_9 | h_10 | h_11 => exact .ofOption _ members
  all_goals exact .pure _

/-- Reads an escape, unless it is an edge before a brace that begins nothing. -/
def readLive (modes : Modes) : List Char → Option (Escape × List Char)
  | 'b' :: rest =>
    (readLiveEdge modes rest).map fun read => (look (.word read.1 !modes.unicode), read.2)
  | input => read modes input

theorem lexeme_readLive (modes : Modes) : Lexeme tails (readLive modes) := by
  refine .cons rfl fun c => ?_
  by_cases hedge : c = 'b'
  · subst hedge
    exact (lexeme_readLiveEdge modes).map fun edge => look (.word edge !modes.unicode)
  · refine (lexeme_read_of_ne modes hedge).congr fun rest => ?_
    simp [readLive, hedge]

end Patternwork.Escape
