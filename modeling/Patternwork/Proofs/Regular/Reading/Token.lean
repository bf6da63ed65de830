import Patternwork.Proofs.Notation.Bracket
import Patternwork.Proofs.Notation.Escape
import Patternwork.Proofs.Regular.Literal
import Patternwork.Proofs.Regular.Reading.Quantifier

namespace Patternwork.Regular

open Modes

variable {modes : Modes} {progress next whole : Progress} {input rest : List Char} {c : Char}
  {fuel : Nat}

/-- What an element adds to what has been read. -/
inductive Token where
  /-- A group with the modes in it. -/
  | opening (modes : Modes) (captured : Bool)
  | named (name : List Char)
  /-- Modes for the rest of the group. -/
  | switch (modes : Modes)
  | close
  | bar
  | part (part : Part)
  | repetition (least : Nat) (greatest : Option Nat) (greedy : Bool)

def Token.act? (progress : Progress) : Token → Option Progress
  | opening modes captured => some (progress.openGroup modes captured)
  | named name =>
    if progress.names.contains name then none
    else
      some (({ progress with names := name :: progress.names } : Progress).openGroup
        progress.modes true)
  | switch modes =>
    some (({ progress with modes } : Progress).add
      { node := .empty, depth := 0, repeatable := false })
  | close => progress.closeGroup?
  | bar => some { progress with branches := progress.branches.next }
  | part read => some (progress.add read)
  | repetition least greatest greedy => progress.repeatLast? least greatest greedy

/-- One inline flag, or the end of the flags. -/
def flagStep (state : Modes × Bool × List Char) (c : Char) :
    Scan ((Modes × Bool × List Char) ⊕ (Modes × Bool × Char)) :=
  if c = ':' ∨ c = ')' then
    if state.2.2.head? = some '-' then fun _ => none
    else fun rest => some (.inr (state.1, state.2.2.isEmpty, c), rest)
  else if state.2.2.contains c then fun _ => none
  else if c = '-' then fun rest => some (.inl (state.1, false, '-' :: state.2.2), rest)
  else
    match setMode? state.1 state.2.1 c with
    | some modes => fun rest => some (.inl (modes, state.2.1, c :: state.2.2), rest)
    | none => fun _ => none

theorem lexeme_flagStep (state : Modes × Bool × List Char) (c : Char) :
    Lexeme tails (flagStep state c) := by
  unfold flagStep
  split_ifs
  · exact .fail
  · exact .pure _
  · exact .fail
  · exact .pure _
  · split
    · exact .pure _
    · exact .fail

theorem readFlags_eq (value : Bool) (read : List Char) (input : List Char) :
    (readFlags modes value read input).map
        (fun read => ((read.1, read.2.1, read.2.2.1), read.2.2.2)) =
      Scan.loop (Scan.each flagStep) (input.length + 1) (modes, value, read) input := by
  induction input generalizing modes value read with
  | nil => rfl
  | cons c rest ih =>
    rw [List.length_cons, readFlags, Scan.loop, Scan.each, flagStep]
    split_ifs
    · rfl
    · rfl
    · rfl
    · exact ih _ _
    · cases setMode? modes value c with
      | none => rfl
      | some modes => exact ih _ _

/-- What inline flags ask for: a group, or other modes from here on. -/
def flagToken? (read : Modes × Bool × Char) : Option Token :=
  if read.2.2 = ':' then some (.opening read.1 false)
  else if read.2.1 then none
  else some (.switch read.1)

def readFlagsToken (modes : Modes) (input : List Char) : Option (Token × List Char) :=
  (readFlags modes true [] input).bind fun read =>
    (flagToken? (read.1, read.2.1, read.2.2.1)).map fun token => (token, read.2.2.2)

theorem lexeme_readFlagsToken (modes : Modes) : Lexeme tails (readFlagsToken modes) := by
  refine ((Lexeme.loop_each lexeme_flagStep (modes, true, [])).bind? flagToken?).congr
    fun input => ?_
  rw [← readFlags_eq, Option.bind_map]
  rfl

theorem lexeme_readName : Lexeme tails readName := by
  refine .ofAppend (fun {input found rest} hread => ?_) fun input more _ _ => ?_
  · unfold readName at hread
    have hdrop := List.dropWhile_suffix (· != '>') (l := input)
    cases hmark : input.dropWhile (· != '>') with
    | nil => simp [hmark] at hread
    | cons c after =>
      cases hname : input.takeWhile (· != '>') with
      | nil => simp [hmark, hname] at hread
      | cons first more =>
        simp only [hmark, hname] at hread hdrop
        obtain ⟨_, hread⟩ := Option.ite_none_right_eq_some.mp hread
        obtain ⟨_, rfl⟩ := Prod.mk.inj (Option.some.inj hread)
        exact (List.suffix_cons c after).trans hdrop
  · unfold readName
    rw [List.dropWhile_append, List.takeWhile_append]
    cases hmark : input.dropWhile (· != '>') with
    | cons c after =>
      have hlength := congrArg List.length
        (List.takeWhile_append_dropWhile (p := (· != '>')) (l := input))
      rw [hmark, List.length_append, List.length_cons] at hlength
      rw [if_neg (by omega)]
      cases input.takeWhile (· != '>') with
      | nil => rfl
      | cons first name =>
        simp only [List.isEmpty_cons, Bool.false_eq_true, reduceIte, List.cons_append]
        split_ifs <;> rfl
    | nil =>
      -- a name that goes on past the parenthesis is none
      have hwhole : input.takeWhile (· != '>') = input := by
        simpa [hmark] using List.takeWhile_append_dropWhile (p := (· != '>')) (l := input)
      have hclose : (')' :: more).takeWhile (· != '>') = ')' :: more.takeWhile (· != '>') := rfl
      rw [hwhole, if_pos rfl, hclose]
      simp only [List.isEmpty_nil, reduceIte]
      cases hrest : (')' :: more).dropWhile (· != '>') with
      | nil => rfl
      | cons c after =>
        cases input with
        | nil => rfl
        | cons first name =>
          have hkind : isNameRest ')' = false := by decide +kernel
          simp [hkind]

/-- A group with a name. -/
def readNamed (input : List Char) : Option (Token × List Char) :=
  (readName input).map fun read => (.named read.1, read.2)

theorem lexeme_readNamed : Lexeme tails readNamed := lexeme_readName.map Token.named

/-- What comes after a parenthesis, a question mark and a letter. -/
def readLetter : Scan Token
  | '<' :: rest => readNamed rest
  | _ => none

/-- What comes after a parenthesis and a question mark. -/
def readMarked (modes : Modes) : Scan Token
  | '<' :: rest => readNamed rest
  | 'P' :: rest => readLetter rest
  | input => readFlagsToken modes input

/-- What comes after a parenthesis. -/
def readOpening (modes : Modes) : Scan Token
  | '?' :: rest => readMarked modes rest
  | input => some (.opening modes true, input)

/-- What an escape stands for, as an expression. -/
def escapeNode (modes : Modes) : Escape → Regular
  | .literal c => .set (modes.literal c)
  | .members chosen => .set chosen
  | .look condition => .look condition

def leafToken (node : Regular) : Token := .part { node, depth := 0 }

/-- A quantifier that is one character, unless it is marked as lazy. -/
def readMark (least : Nat) (greatest : Option Nat) (input : List Char) :
    Option (Token × List Char) :=
  some (.repetition least greatest (readLazy input).1, (readLazy input).2)

/-- What comes after the first character of an element. -/
def readAt (modes : Modes) : Char → Scan Token
  | '(' => fun rest => readOpening modes (modes.skip rest)
  | ')' => fun rest => some (.close, rest)
  | '|' => fun rest => some (.bar, rest)
  | '[' => fun rest =>
    (Bracket.read modes rest).map fun read =>
      (.part { node := .set read.1.set, depth := read.1.depth }, read.2)
  | '?' => readMark 0 (some 1)
  | '*' => readMark 0 none
  | '+' => readMark 1 none
  | '\x7b' => fun rest =>
    (readBounds modes rest).map fun read =>
      (.repetition read.1 read.2.1 read.2.2.1, read.2.2.2)
  | '\\' => fun rest =>
    (Escape.readLive modes rest).map fun read => (leafToken (escapeNode modes read.1), read.2)
  | '.' =>
    if modes.unicode then fun rest => some (leafToken (.set modes.dot), rest) else fun _ => none
  | '^' => fun rest => some (leafToken (.look modes.caret), rest)
  | '$' => fun rest => some (leafToken (.look modes.dollar), rest)
  | c => fun rest => some (leafToken (.set (modes.literal c)), rest)

/-- An element, unless it is a word edge before a brace that begins nothing. -/
def readToken (modes : Modes) : Scan Token
  | [] => none
  | c :: rest => readAt modes c rest

theorem lexeme_readLetter : Lexeme tails readLetter := by
  refine .cons rfl fun c => ?_
  by_cases hangle : c = '<'
  · subst hangle
    exact lexeme_readNamed
  · exact Lexeme.fail.congr fun rest => by simp [readLetter, hangle]

theorem lexeme_readMarked (modes : Modes) : Lexeme tails (readMarked modes) := by
  have hpresent (c : Char) : Lexeme tails (if c = '<' then readNamed else readLetter) := by
    split_ifs
    · exact lexeme_readNamed
    · exact lexeme_readLetter
  refine .peek (fun c => c == '<' || c == 'P') rfl hpresent (lexeme_readFlagsToken modes) ?_
    fun input hmark => ?_
  · intro c rest hc
    rcases Bool.or_eq_true_iff.mp hc with hc | hc <;> obtain rfl := beq_iff_eq.mp hc <;> rfl
  · unfold readMarked
    split
    · simp at hmark
    · simp at hmark
    · rfl

theorem lexeme_readOpening (modes : Modes) : Lexeme tails (readOpening modes) := by
  refine .peek (· == '?') rfl (fun _ => lexeme_readMarked modes) (.pure (.opening modes true)) ?_
    fun input hmark => ?_
  · intro c rest hc
    obtain rfl := beq_iff_eq.mp hc
    rfl
  · unfold readOpening
    split
    · simp at hmark
    · rfl

theorem lexeme_readMark (least : Nat) (greatest : Option Nat) :
    Lexeme tails (readMark least greatest) :=
  lexeme_readLazy.map (Token.repetition least greatest)

theorem lexeme_readAt (modes : Modes) (c : Char) : Lexeme tails (readAt modes c) := by
  unfold readAt
  split
  case h_1 => exact modes.lexeme_skip_then (lexeme_readOpening modes)
  case h_4 =>
    exact (Bracket.lexeme_read modes).map fun part =>
      Token.part { node := .set part.set, depth := part.depth }
  case h_5 | h_6 | h_7 => exact lexeme_readMark _ _
  case h_8 =>
    refine ((lexeme_readBounds modes).map fun read =>
      Token.repetition read.1 read.2.1 read.2.2).congr fun input => ?_
    rw [Option.map_map]
    rfl
  case h_9 =>
    exact (Escape.lexeme_readLive modes).map fun escape => leafToken (escapeNode modes escape)
  case h_10 =>
    split_ifs
    · exact .pure _
    · exact .fail
  all_goals exact .pure _

theorem lexeme_readToken (modes : Modes) : Lexeme tails (readToken modes) :=
  .cons rfl (lexeme_readAt modes)

theorem length_lt_of_readToken {token : Token} (hread : readToken modes input = some (token, rest)) :
    rest.length < input.length := by
  cases input with
  | nil => cases hread
  | cons c input => exact Nat.lt_succ_of_le ((lexeme_readAt modes c).suffix hread).length_le

/-- The token is added to what has been read. -/
def Token.addTo (progress : Progress) (read : Token × List Char) :
    Option (Progress × List Char) :=
  (read.1.act? progress).map fun next => (next, read.2)

theorem openNamed_eq (progress : Progress) (input : List Char) :
    openNamed progress input = (readNamed input).bind (Token.addTo progress) := by
  unfold openNamed readNamed
  cases readName input with
  | none => rfl
  | some read =>
    simp only [Option.bind_eq_bind, Option.bind_some, Option.map_some, Token.addTo, Token.act?]
    split_ifs <;> rfl

theorem readFlagsToken_eq (progress : Progress) (input : List Char) :
    (do
      let (modes, noFlags, stop, rest) ← readFlags progress.modes true [] input
      if stop = ':' then some (progress.openGroup modes false, rest)
      else if noFlags then none
      else
        some (({ progress with modes } : Progress).add
          { node := .empty, depth := 0, repeatable := false }, rest)) =
      (readFlagsToken progress.modes input).bind (Token.addTo progress) := by
  unfold readFlagsToken
  cases readFlags progress.modes true [] input with
  | none => rfl
  | some read =>
    simp only [Option.bind_eq_bind, Option.bind_some, flagToken?]
    split_ifs <;> rfl

theorem readNamed_of_look {c : Char} (hmark : c ≠ '>') (hstart : isNameStart c = false)
    (rest : List Char) : readNamed (c :: rest) = none := by
  have htake : (c :: rest).takeWhile (· != '>') = c :: rest.takeWhile (· != '>') := by
    simp [hmark]
  rw [readNamed, readName, htake]
  cases (c :: rest).dropWhile (· != '>') <;> simp [hstart]

theorem readMarked_of_ne (hangle : ∀ rest, input ≠ '<' :: rest)
    (hnamed : ∀ rest, input ≠ 'P' :: '<' :: rest) :
    readMarked modes input = readFlagsToken modes input := by
  unfold readMarked
  split
  next rest => exact absurd rfl (hangle rest)
  next rest =>
    have hletter : readLetter rest = none := by
      unfold readLetter
      split
      next after => exact absurd rfl (hnamed after)
      next => rfl
    rw [hletter]
    rfl
  next => rfl

theorem readGroup_eq (progress : Progress) (input : List Char) :
    readGroup progress input =
      (readOpening progress.modes (progress.modes.skip input)).bind (Token.addTo progress) := by
  unfold readGroup
  split
  next hskip =>
    rw [hskip]
    rfl
  next hskip =>
    rw [hskip]
    rfl
  next hskip =>
    rw [hskip, readOpening, readMarked, readNamed_of_look (by decide) (by decide +kernel)]
    rfl
  next hskip =>
    rw [hskip, readOpening, readMarked, readNamed_of_look (by decide) (by decide +kernel)]
    rfl
  next hskip =>
    rw [hskip]
    exact openNamed_eq _ _
  next hskip =>
    rw [hskip]
    exact openNamed_eq _ _
  next rest _ _ _ _ hnamed hangle hskip =>
    rw [hskip, readOpening, readMarked_of_ne (fun after => ?_) fun after => ?_]
    · exact readFlagsToken_eq _ _
    · rintro rfl
      exact hangle after rfl
    · rintro rfl
      exact hnamed after rfl
  next hplain =>
    unfold readOpening
    split
    next rest hskip => exact absurd hskip (hplain rest)
    next => rfl

/-- A word edge before a brace that begins nothing. -/
def isDeadEdge (modes : Modes) : List Char → Bool
  | '\\' :: 'b' :: rest => Escape.isDeadBrace modes rest
  | _ => false

theorem readLive_eq (hlive : isDeadEdge modes ('\\' :: rest) = false) :
    Escape.readLive modes rest = Escape.read modes rest := by
  unfold Escape.readLive
  split
  next after =>
    have hbrace : Escape.isDeadBrace modes after = false := hlive
    rw [Escape.readLiveEdge, if_neg (by simp [hbrace])]
    rfl
  next => rfl

/-- An element is read as a token, unless it is a word edge before a brace that begins
    nothing. -/
theorem readElement_eq (progress : Progress) (hlive : isDeadEdge progress.modes input = false) :
    readElement progress input = (readToken progress.modes input).bind (Token.addTo progress) := by
  cases input with
  | nil => rfl
  | cons c rest =>
    rw [readToken]
    unfold readAt
    split
    case h_1 => exact readGroup_eq progress rest
    case h_2 => rfl
    case h_3 => rfl
    case h_4 =>
      change (Bracket.read progress.modes rest).bind _ = _
      rw [Option.bind_map]
      rfl
    case h_5 | h_6 | h_7 => rfl
    case h_8 =>
      change (readBounds progress.modes rest).bind _ = _
      rw [Option.bind_map]
      rfl
    case h_9 =>
      change (Escape.read progress.modes rest).bind _ =
        ((Escape.readLive progress.modes rest).map _).bind _
      rw [readLive_eq hlive, Option.bind_map]
      rfl
    case h_10 =>
      simp only [readElement]
      split_ifs <;> rfl
    case h_11 | h_12 => rfl
    case h_13 =>
      simp [readElement, *]
      rfl

theorem readToken_of_deadEdge (hdead : isDeadEdge modes input = true) :
    readToken modes input = none := by
  unfold isDeadEdge at hdead
  split at hdead
  next rest =>
    change ((Escape.readLiveEdge modes rest).map _).map _ = none
    rw [Escape.readLiveEdge, if_pos hdead]
    rfl
  next => cases hdead

/-- A brace that begins nothing is no quantifier. -/
theorem readBounds_of_deadBrace (hdead : Escape.isDeadBrace modes ('\x7b' :: input) = true) :
    readBounds modes input = none := by
  have hblank : Unicode.isBlank ')' = false := by decide +kernel
  rw [readBounds_eq, readCount]
  rw [Escape.isDeadBrace] at hdead
  cases hskip : modes.skip input with
  | nil => rfl
  | cons c rest =>
    obtain rfl : c = ')' := by simpa [hskip] using hdead
    rw [List.dropWhile_cons_of_neg (by simp [hblank])]
    rfl

theorem readElements_of_deadEdge (hdead : isDeadEdge progress.modes input = true)
    (hread : readElement progress input = some (next, rest)) (fuel : Nat) :
    readElements fuel next rest = none := by
  obtain ⟨after, rfl, hbrace⟩ : ∃ after, input = '\\' :: 'b' :: '\x7b' :: after ∧
      Escape.isDeadBrace progress.modes ('\x7b' :: after) = true := by
    unfold isDeadEdge at hdead
    split at hdead
    next edge =>
      cases edge with
      | nil => cases hdead
      | cons c after =>
        obtain rfl : c = '\x7b' := by
          by_contra hc
          simp [Escape.isDeadBrace, hc] at hdead
        exact ⟨after, rfl, hdead⟩
    next => cases hdead
  have hedge : readElement progress ('\\' :: 'b' :: '\x7b' :: after) =
      ((Escape.readEdge progress.modes ('\x7b' :: after)).map fun read =>
        (progress.addLeaf (.look (.word read.1 !progress.modes.unicode)), read.2)) := by
    change ((Escape.readEdge progress.modes ('\x7b' :: after)).map _).bind _ = _
    rw [Option.bind_map, Option.map_eq_bind]
    rfl
  rw [hedge, Escape.readEdge_brace] at hread
  cases hskip : progress.modes.skip after with
  | nil => simp [hskip] at hread
  | cons c left =>
    obtain rfl : c = ')' := by simpa [Escape.isDeadBrace, hskip] using hbrace
    have hletter : Escape.isEdgeLetter ')' = false := rfl
    simp only [hskip, hletter, Bool.false_eq_true, reduceIte, Option.map_some, Option.some.injEq,
      Prod.mk.injEq] at hread
    obtain ⟨rfl, rfl⟩ := hread
    cases fuel with
    | zero => rfl
    | succ fuel =>
      rw [readElements, skip_cons _ (by decide) (by decide)]
      change ((readBounds progress.modes after).bind _).bind _ = none
      rw [readBounds_of_deadBrace hbrace]
      rfl

/-- An element in a round is read as a token. -/
theorem readElements_of_skip (hskip : progress.modes.skip input = c :: rest) (fuel : Nat) :
    readElements (fuel + 1) progress input =
      (readToken progress.modes (c :: rest)).bind fun read =>
        (read.1.act? progress).bind fun next => readElements fuel next read.2 := by
  rw [readElements, hskip]
  change (readElement progress (c :: rest)).bind _ = _
  cases hdead : isDeadEdge progress.modes (c :: rest) with
  | false =>
    rw [readElement_eq progress hdead, Option.bind_assoc]
    congr 1
    funext read
    rw [Token.addTo, Option.bind_map]
    rfl
  | true =>
    rw [readToken_of_deadEdge hdead, Option.bind_none, Option.bind_eq_none_iff]
    rintro ⟨next, left⟩ hread
    exact readElements_of_deadEdge hdead hread fuel

end Patternwork.Regular
