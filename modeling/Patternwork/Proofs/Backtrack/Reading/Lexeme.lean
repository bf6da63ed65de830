import Mathlib.Tactic.SplitIfs
import Patternwork.Proofs.Backtrack.Reading.Tail
import Patternwork.Proofs.Notation.Escape

namespace Patternwork.Backtrack

variable {tails : Tails} {modes : Modes} {input rest : List Char}

/-- The bounds of a quantifier, whether it is greedy and whether it gives nothing back. -/
structure Quantifier where
  least : Nat
  greatest : Option Nat
  greedy : Bool
  atomic : Bool

/-- The marks that may follow the bounds of a quantifier. -/
def readMarks (modes : Modes) (least : Nat) (greatest : Option Nat) (input : List Char) :
    Option (Quantifier × List Char) :=
  (skip modes input).bind fun rest =>
    (Scan.mark '?' rest).bind fun lazy =>
      (Scan.mark '+' lazy.2).map fun atomic =>
        ({ least, greatest, greedy := lazy.1 == modes.swapGreed, atomic := atomic.1 }, atomic.2)

theorem lexeme_readMarks (htails : Respected tails) (modes : Modes) (least : Nat)
    (greatest : Option Nat) : Lexeme tails (readMarks modes least greatest) := by
  have hmark {c : Char} (hc : c ≠ ')') : Lexeme tails (Scan.mark c) := .mark hc
  exact htails.skip_then modes ((hmark (by decide)).bind fun lazy =>
    (hmark (by decide)).map (Quantifier.mk least greatest (lazy == modes.swapGreed)))

/-- The bounds of a quantifier, if there is one. -/
def readRange (modes : Modes) (input : List Char) : Option ((Nat × Option Nat) × List Char) :=
  (readQuantifier modes input).map fun read => ((read.1, read.2.1), read.2.2)

theorem readRange_suffix {range : Nat × Option Nat}
    (hread : readRange modes input = some (range, rest)) :
    rest <:+ input := by
  obtain ⟨read, hquantifier, heq⟩ := Option.map_eq_some_iff.mp hread
  obtain ⟨_, rfl⟩ := Prod.mk.inj heq
  exact readQuantifier_suffix hquantifier

theorem Respected.readRange_append (htails : Respected tails) (input more : List Char)
    (hinput : tails.Input input) (hmore : tails.Allowed more) :
    readRange modes (input ++ ')' :: more) =
      (readRange modes input).map fun read => (read.1, read.2 ++ ')' :: more) := by
  simp only [readRange, htails.readQuantifier_append hmore modes hinput, Option.map_map]
  rfl

/-- The quantifier that may follow a part, after what is passed over. -/
def readRepetition (modes : Modes) (input : List Char) :
    Option (Option Quantifier × List Char) :=
  (skip modes input).bind <| Scan.orElse (readRange modes)
    (fun range rest => (readMarks modes range.1 range.2 rest).map fun read => (some read.1, read.2))
    fun rest => some (none, rest)

theorem lexeme_readRepetition (htails : Respected tails) (modes : Modes) :
    Lexeme tails (readRepetition modes) :=
  htails.skip_then modes (.orElse readRange_suffix htails.readRange_append
    (fun range => (lexeme_readMarks htails modes range.1 range.2).map some) (.pure none))

theorem readHexFixed_append (count code : Nat) (input more : List Char) :
    Escape.readHexFixed {} count code (input ++ ')' :: more) =
      (Escape.readHexFixed {} count code input).map fun read =>
        (read.1, read.2 ++ ')' :: more) := by
  induction count generalizing code input with
  | zero => rfl
  | succ count ih =>
    cases input with
    | nil => rfl
    | cons c rest =>
      simp only [List.cons_append, Escape.readHexFixed, Option.bind_eq_bind]
      cases hexDigit? c with
      | none => rfl
      | some digit => exact ih (code * 16 + digit) rest

/-- One digit in braces, or the closing brace. -/
def hexBracedStep (state : Nat × Nat) (c : Char) : Scan ((Nat × Nat) ⊕ Nat) :=
  if 0 < state.1 ∧ c = '\x7d' then fun rest => some (.inr state.2, rest)
  else if state.1 < 8 then
    match hexDigit? c with
    | none => fun _ => none
    | some d => fun rest => some (.inl (state.1 + 1, state.2 * 16 + d), rest)
  else fun _ => none

theorem lexeme_hexBracedStep (state : Nat × Nat) (c : Char) :
    Lexeme tails (hexBracedStep state c) := by
  unfold hexBracedStep
  split_ifs
  · exact .pure _
  · split
    · exact .fail
    · exact .pure _
  · exact .fail

theorem readHexBraced_eq (fuel : Nat) (state : Nat × Nat) (input : List Char) :
    readHexBraced fuel state.1 state.2 input =
      Scan.loop (Scan.each hexBracedStep) fuel state input := by
  induction fuel generalizing state input with
  | zero => rfl
  | succ fuel ih =>
    rw [Scan.loop]
    cases input with
    | nil => rfl
    | cons c rest =>
      rw [readHexBraced, Scan.each, hexBracedStep]
      split_ifs
      · rfl
      · cases hexDigit? c with
        | none => rfl
        | some d => exact ih (state.1 + 1, state.2 * 16 + d) rest
      · rfl

theorem lexeme_readHexBraced :
    Lexeme tails fun input => readHexBraced (input.length + 1) 0 0 input :=
  (Lexeme.loop_each lexeme_hexBracedStep (0, 0)).congr fun _ => readHexBraced_eq _ (0, 0) _

/-- Digits in braces. -/
def readBracedHex : Scan Nat
  | '\x7b' :: rest => readHexBraced (rest.length + 1) 0 0 rest
  | _ => none

theorem lexeme_readBracedHex : Lexeme tails readBracedHex := by
  refine .cons rfl fun c => ?_
  by_cases hbrace : c = '\x7b'
  · subst hbrace
    exact lexeme_readHexBraced
  · exact Lexeme.fail.congr fun rest => by simp [readBracedHex, hbrace]

/-- The character with a code point, as an atom. -/
def hexAtom? (code : Nat) : Option Atom :=
  (Escape.scalar? code).map fun c => .literal c true

/-- Digits of a fixed number, or digits in braces. -/
def readCode (count : Nat) : Scan Nat :=
  Scan.orElse (Escape.readHexFixed {} count 0) (fun code rest => some (code, rest)) readBracedHex

theorem lexeme_readCode (count : Nat) : Lexeme tails (readCode count) :=
  .orElse (Escape.lexeme_readHexFixed {} count 0).suffix
    (fun input more _ _ => readHexFixed_append count 0 input more) .pure lexeme_readBracedHex

theorem readHex_eq (count : Nat) (input : List Char) :
    readHex count input =
      (readCode count input).bind fun read =>
        (hexAtom? read.1).map fun atom => (atom, read.2) := by
  have hatom (code : Nat) (rest : List Char) :
      ((Escape.scalar? code).bind fun c => some (Atom.literal c true, rest)) =
        (hexAtom? code).map fun atom => (atom, rest) := by
    cases hscalar : Escape.scalar? code <;> simp [hexAtom?, hscalar]
  unfold readHex readCode Scan.orElse
  cases Escape.readHexFixed {} count 0 input with
  | some found => exact hatom found.1 found.2
  | none =>
    cases input with
    | nil => rfl
    | cons c rest =>
      by_cases hbrace : c = '\x7b'
      · subst hbrace
        cases hread : readHexBraced (rest.length + 1) 0 0 rest with
        | none => simp [readBracedHex, hread]
        | some found => simpa [readBracedHex, hread] using hatom found.1 found.2
      · simp [readBracedHex, hbrace]

theorem lexeme_readHex (count : Nat) : Lexeme tails (readHex count) :=
  ((lexeme_readCode count).bind? hexAtom?).congr (readHex_eq count)

/-- The members of a property, by its text. -/
def propertyAtom (start text : List Char) : Atom := .members (start ++ text) true

theorem lexeme_upToBrace : Lexeme tails (Scan.upTo '\x7d') := .upTo (by decide)

theorem lexeme_readPropertyText (start : List Char) :
    Lexeme tails (readPropertyText start) := by
  refine .cons rfl fun c => ?_
  by_cases hbrace : c = '\x7b'
  · subst hbrace
    refine (lexeme_upToBrace.map fun name =>
      propertyAtom start ('\x7b' :: name ++ ['\x7d'])).congr fun rest => ?_
    rw [readPropertyText, Scan.upTo]
    cases hdrop : rest.dropWhile (· != '\x7d') <;> simp [propertyAtom]
  · refine (Lexeme.pure (propertyAtom start [c])).congr fun rest => ?_
    simp [readPropertyText, propertyAtom]

/-- What an edge is named by in braces. -/
def readEdgeNamed (input : List Char) : Option (Atom × List Char) :=
  (Scan.upTo '\x7d' input).bind fun read =>
    (Escape.edgeNamed? (String.ofList read.1)).map fun edge => (.look (.word edge false), read.2)

theorem lexeme_readEdgeNamed : Lexeme tails readEdgeNamed :=
  lexeme_upToBrace.bind fun name => .ofOption (Escape.edgeNamed? (String.ofList name))
    fun edge => Atom.look (.word edge false)

theorem readAtom_edge_brace (after : List Char) :
    readAtom false ('b' :: '\x7b' :: after) = readEdgeNamed after := by
  unfold readEdgeNamed Scan.upTo
  cases hdrop : after.dropWhile (· != '\x7d') <;>
    cases hedge : Escape.edgeNamed? (String.ofList (after.takeWhile (· != '\x7d'))) <;>
      simp [readAtom, hdrop, hedge]

theorem readAtom_edge (hbrace : rest.head? ≠ some '\x7b') :
    readAtom false ('b' :: rest) = some (.look (.word .boundary false), rest) := by
  cases rest with
  | nil => rfl
  | cons c rest =>
    have hc : c ≠ '\x7b' := by simpa using hbrace
    simp [readAtom, hc]

theorem lexeme_readAtom (inClass : Bool) : Lexeme tails (readAtom inClass) := by
  refine .cons rfl fun c => ?_
  by_cases hedge : c = 'b' ∧ inClass = false
  · obtain ⟨rfl, rfl⟩ := hedge
    have hboundary : Lexeme tails fun rest => some (Atom.look (.word .boundary false), rest) :=
      .pure _
    refine .peek (· == '\x7b') rfl (fun _ => lexeme_readEdgeNamed) hboundary
      (fun d rest hd => ?_) fun rest hbrace => ?_
    · obtain rfl := beq_iff_eq.mp hd
      exact readAtom_edge_brace rest
    · exact readAtom_edge (by cases rest <;> simp_all)
  · unfold readAtom
    dsimp only
    split
    case h_3 => exact absurd ⟨rfl, rfl⟩ hedge
    case h_17 | h_18 | h_19 => exact lexeme_readHex _
    case h_20 | h_21 => exact lexeme_readPropertyText _
    case h_30 =>
      split_ifs
      · exact .fail
      · exact .pure _
    all_goals exact .pure _

/-- The text of what an escape stands for in a class. -/
def Atom.text? : Atom → Option (List Char)
  | .literal c _ => some (classText c)
  | .members inner _ => some inner
  | .look _ | .keepOut | .searchStart => none

/-- The member that an escape adds to the text of a class. -/
def readMember (state : Nat × List Char) (input : List Char) :
    Option (((Nat × List Char) ⊕ List Char) × List Char) :=
  (readAtom true input).bind fun read =>
    (read.1.text?).map fun text => (.inl (state.1, text.reverse ++ state.2), read.2)

/-- One step inside a class: how many brackets are open, and the text so far. -/
def classStep (state : Nat × List Char) (c : Char) : Scan ((Nat × List Char) ⊕ List Char) :=
  if c = '\\' then fun rest =>
    if rest.head?.any Char.isDigit then none else readMember state rest
  else if c = '[' then fun rest => some (.inl (state.1 + 1, c :: state.2), rest)
  else if c = ']' then fun rest =>
    some (if state.1 = 1 then .inr (c :: state.2) else .inl (state.1 - 1, c :: state.2), rest)
  else fun rest => some (.inl (state.1, c :: state.2), rest)

theorem lexeme_readMember (state : Nat × List Char) : Lexeme tails (readMember state) :=
  (lexeme_readAtom true).bind fun atom => .ofOption atom.text?
    fun text => (.inl (state.1, text.reverse ++ state.2) : (Nat × List Char) ⊕ List Char)

theorem lexeme_classStep (state : Nat × List Char) (c : Char) :
    Lexeme tails (classStep state c) := by
  unfold classStep
  split_ifs
  · exact .branch Char.isDigit rfl .fail (lexeme_readMember state)
  all_goals exact .pure _

theorem readClassText_eq (fuel : Nat) (state : Nat × List Char) (input : List Char) :
    readClassText fuel state.1 state.2 input = Scan.loop (Scan.each classStep) fuel state input := by
  induction fuel generalizing state input with
  | zero => rfl
  | succ fuel ih =>
    rw [Scan.loop]
    cases input with
    | nil => rfl
    | cons c rest =>
      rw [readClassText, Scan.each, classStep]
      split_ifs with hescape hdigit hopen hclose hlevel
      · simp [hdigit]
      · simp only [hdigit, readMember, Bool.false_eq_true, reduceIte]
        cases readAtom true rest with
        | none => rfl
        | some read =>
          obtain ⟨atom, after⟩ := read
          cases atom with
          | literal d foldable => exact ih (state.1, (classText d).reverse ++ state.2) after
          | members inner foldable => exact ih (state.1, inner.reverse ++ state.2) after
          | look | keepOut | searchStart => rfl
      · exact ih (state.1 + 1, c :: state.2) rest
      · rfl
      · exact ih (state.1 - 1, c :: state.2) rest
      · exact ih (state.1, c :: state.2) rest

/-- The text of a class from its bracket on, latest first, where it begins with a caret or with a
    bracket that does not close it. -/
def classStart (caret bracket : Bool) : List Char :=
  (if bracket then [']'] else []) ++ (if caret then ['^'] else []) ++ ['[']

/-- A class, after its bracket. -/
def readSet (modes : Modes) (input : List Char) : Option (CharClass × List Char) :=
  (Scan.mark '^' input).bind fun caret =>
    (Scan.mark ']' caret.2).bind fun bracket =>
      (Scan.loop (Scan.each classStep) (bracket.2.length + 1) (1, classStart caret.1 bracket.1)
        bracket.2).bind fun read =>
          (members? modes true read.1.reverse).map fun set => (set, read.2)

theorem lexeme_readSet (modes : Modes) : Lexeme tails (readSet modes) := by
  have hmark {c : Char} (hc : c ≠ ')') : Lexeme tails (Scan.mark c) := .mark hc
  exact (hmark (by decide)).bind fun caret => (hmark (by decide)).bind fun bracket =>
    (Lexeme.loop_each lexeme_classStep (1, classStart caret bracket)).bind? fun text =>
      members? modes true text.reverse

theorem readClass_eq (modes : Modes) (input : List Char) :
    readClass modes input = (readSet modes input).map fun read => (.set read.1, read.2) := by
  have htext (text rest : List Char) :
      ((readClassText (rest.length + 1) 1 text rest).bind fun read =>
        (members? modes true read.1.reverse).bind fun set => some (Tree.set set, read.2)) =
      ((Scan.loop (Scan.each classStep) (rest.length + 1) (1, text) rest).bind fun read =>
        (members? modes true read.1.reverse).map fun set => (set, read.2)).map
          fun read => (.set read.1, read.2) := by
    rw [← readClassText_eq, Option.map_bind]
    congr 1
    funext read
    cases hset : members? modes true read.1.reverse <;> simp [hset]
  unfold readClass
  split
  next text start heq =>
    split at heq <;> obtain ⟨rfl, rfl⟩ := Prod.mk.inj heq
    next => exact htext _ _
    next rest hbracket =>
      have hmark : Scan.mark ']' rest = some (false, rest) := Scan.mark_of_ne hbracket
      change _ = Option.map _ ((Scan.mark ']' rest).bind _)
      rw [hmark]
      exact htext _ _
    next => exact htext _ _
    next _ hcaret hbracket =>
      rw [readSet, Scan.mark_of_ne hcaret, Option.bind_some, Scan.mark_of_ne hbracket]
      exact htext _ _

/-- The sign of a name, where there may be one. -/
def readSign (relative : Bool) : Scan Bool :=
  if relative then Scan.mark '-' else fun input => some (false, input)

/-- The character after a name. -/
def closeName (stop : Char) (sign : Bool) (name : List Char) : Scan (List Char)
  | [] => none
  | c :: rest =>
    if c = stop && !name.isEmpty then some ((if sign then ['-'] else []) ++ name, rest) else none

theorem lexeme_readSign (relative : Bool) : Lexeme tails (readSign relative) := by
  unfold readSign
  split_ifs
  · exact .mark (by decide)
  · exact .pure _

theorem lexeme_closeName (stop : Char) (sign : Bool) (name : List Char) :
    Lexeme tails (closeName stop sign name) := by
  refine .cons rfl fun c => ?_
  by_cases hclose : (c = stop && !name.isEmpty) = true
  · exact (Lexeme.pure _).congr fun rest => if_pos hclose
  · exact Lexeme.fail.congr fun rest => if_neg hclose

theorem readName_eq (stop : Char) (relative : Bool) (input : List Char) :
    readName stop relative input =
      (readSign relative input).bind fun sign =>
        (some (sign.2.takeWhile isNameCharacter, sign.2.dropWhile isNameCharacter)).bind
          fun name => closeName stop sign.1 name.1 name.2 := by
  unfold readName
  split
  next sign start heq =>
    obtain ⟨called, hsign, rfl⟩ : ∃ called, readSign relative input = some (called, start) ∧
        sign = if called then ['-'] else [] := by
      split at heq <;> obtain ⟨rfl, rfl⟩ := Prod.mk.inj heq
      next => exact ⟨true, rfl, rfl⟩
      next hsign =>
        refine ⟨false, ?_, rfl⟩
        cases relative with
        | false => rfl
        | true => exact Scan.mark_of_ne fun rest => hsign rest rfl
    rw [hsign, Option.bind_some, Option.bind_some]
    cases start.dropWhile isNameCharacter <;> rfl

theorem lexeme_readName (stop : Char) (relative : Bool) :
    Lexeme tails (readName stop relative) :=
  ((lexeme_readSign relative).bind fun sign =>
    (Lexeme.span isNameCharacter (by decide +kernel)).bind (lexeme_closeName stop sign)).congr
      (readName_eq stop relative)

theorem readFlags_of_skip {start fuel : Nat} {value : Bool} {c : Char}
    (hskip : skip modes input = some (c :: rest)) :
    readFlags start (fuel + 1) modes value input =
      if c = ')' then
        if start - (rest.length + 1) = 0 ∨ (!value ∧ start - (rest.length + 1) = 1) then none
        else some (modes, c, rest)
      else if c = ':' then
        if !value ∧ start - (rest.length + 1) = 1 then none else some (modes, c, rest)
      else if c = '-' then if value then readFlags start fuel modes false rest else none
      else (setMode? modes value c).bind fun set => readFlags start fuel set value rest := by
  rw [readFlags, hskip]
  rfl

theorem readFlags_suffix {start fuel : Nat} {value : Bool} {read : Modes × Char × List Char}
    (hread : readFlags start fuel modes value input = some read) : read.2.2 <:+ input := by
  induction fuel generalizing modes value input with
  | zero => cases hread
  | succ fuel ih =>
    obtain ⟨before, hskip, hread⟩ := Option.bind_eq_some_iff.mp hread
    refine List.IsSuffix.trans ?_ (skip_suffix hskip)
    cases before with
    | nil => cases hread
    | cons c rest =>
      have hrest := List.suffix_cons c rest
      dsimp only at hread
      split_ifs at hread
      · obtain rfl := Option.some.inj hread
        exact hrest
      · obtain rfl := Option.some.inj hread
        exact hrest
      · exact (ih hread).trans hrest
      · obtain ⟨_, _, hread⟩ := Option.bind_eq_some_iff.mp hread
        exact (ih hread).trans hrest

/-- Inline flags, after what is passed over. -/
def scanFlags (modes : Modes) (input : List Char) : Option ((Modes × Char) × List Char) :=
  (skip modes input).bind fun before =>
    (readFlags before.length (before.length + 1) modes true before).map fun read =>
      ((read.1, read.2.1), read.2.2)

/-- The parenthesis after a text ends the flags that it ends in. -/
theorem continued_readFlags (htails : Respected tails) {start fuel : Nat} {value : Bool}
    (hinput : tails.Input input) (hfuel : input.length < fuel) :
    Continued tails
      ((readFlags start fuel modes value input).map fun read => ((read.1, read.2.1), read.2.2))
      fun more =>
        (readFlags (start + (more.length + 1)) (fuel + (more.length + 1)) modes value
          (input ++ ')' :: more)).map fun read => ((read.1, read.2.1), read.2.2) := by
  induction fuel generalizing modes value input with
  | zero => exact absurd hfuel (Nat.not_lt_zero _)
  | succ fuel ih =>
    have hcontinued (more : List Char) : fuel + 1 + (more.length + 1) =
        fuel + (more.length + 1) + 1 := by omega
    simp only [hcontinued]
    cases (htails.lexeme_scanSkip modes).continued input hinput with
    | @kept _ before halone heq =>
      have hskip := scanSkip_eq_some_iff.mp halone
      cases before with
      | nil =>
        refine .beyond (by rw [readFlags, hskip]; rfl) fun {more found rest} hlost hread => ?_
        obtain ⟨read, hflags, hrest⟩ := Option.map_eq_some_iff.mp hread
        obtain ⟨_, rfl⟩ := Prod.mk.inj hrest
        rw [readFlags, scanSkip_eq_some_iff.mp (heq more (tails.allowed_of_lost hlost))] at hflags
        obtain ⟨_, hflags⟩ := Option.ite_none_left_eq_some.mp hflags
        obtain rfl := Option.some.inj hflags
        exact List.suffix_rfl
      | cons c rest =>
        have hrest : rest.length < fuel := by
          have hle := (skip_suffix hskip).length_le
          rw [List.length_cons] at hle
          omega
        have hread (more : List Char) : start + (more.length + 1) - ((rest ++ ')' :: more).length + 1) =
            start - (rest.length + 1) := by
          rw [List.length_append, List.length_cons]
          omega
        rw [readFlags_of_skip hskip]
        have hafter := tails.input_of_suffix hinput
          ((List.suffix_cons c rest).trans (skip_suffix hskip))
        refine Continued.congr ?_ fun more hmore => by
          rw [readFlags_of_skip (htails.skip_append_of_cons hinput hmore hskip), hread]
        split_ifs
        · exact .beyond rfl fun _ hnone => by cases hnone
        · exact .kept rfl fun _ _ => rfl
        · exact .beyond rfl fun _ hnone => by cases hnone
        · exact .kept rfl fun _ _ => rfl
        · exact ih hafter hrest
        · exact .beyond rfl fun _ hnone => by cases hnone
        · cases setMode? modes value c with
          | none => exact .beyond rfl fun _ hnone => by cases hnone
          | some set => exact ih hafter hrest
    | lost _ halone heq =>
      have hskip := scanSkip_eq_some_iff.mp halone
      refine .beyond (by rw [readFlags, hskip]; rfl) fun {more found rest} hlost hread => ?_
      rw [readFlags, scanSkip_eq_some_iff.mp (heq more hlost)] at hread
      cases hread
    | beyond halone htakes =>
      have hskip : skip modes input = none := Option.map_eq_none_iff.mp halone
      refine .beyond (by rw [readFlags, hskip]; rfl) fun {more found rest} hlost hread => ?_
      obtain ⟨read, hflags, hrest⟩ := Option.map_eq_some_iff.mp hread
      obtain ⟨_, rfl⟩ := Prod.mk.inj hrest
      obtain ⟨before, hbefore, hbody⟩ := Option.bind_eq_some_iff.mp hflags
      have hself : readFlags (start + (more.length + 1)) (fuel + (more.length + 1) + 1) modes value
          before = some read := by
        rw [readFlags, skip_eq_self hbefore]
        exact hbody
      exact (readFlags_suffix hself).trans (htakes hlost (scanSkip_eq_some_iff.mpr hbefore))

theorem lexeme_scanFlags (htails : Respected tails) (modes : Modes) :
    Lexeme tails (scanFlags modes) := by
  refine htails.skip_then modes ⟨fun hread => ?_, fun input hinput => ?_⟩
  · obtain ⟨read, hflags, heq⟩ := Option.map_eq_some_iff.mp hread
    obtain ⟨_, rfl⟩ := Prod.mk.inj heq
    exact readFlags_suffix hflags
  · refine (continued_readFlags htails hinput (Nat.lt_succ_self _)).congr fun more _ => ?_
    have hlength : (input ++ ')' :: more).length = input.length + (more.length + 1) := by simp
    rw [hlength, Nat.add_right_comm]

end Patternwork.Backtrack
