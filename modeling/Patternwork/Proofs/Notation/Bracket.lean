import Patternwork.Notation.Bracket
import Patternwork.Proofs.Notation.Escape

namespace Patternwork.Bracket

open Modes

variable {modes : Modes}

/-- A hyphen that stands for itself. -/
def hyphen : Part := ⟨.single '-', 0⟩

theorem readHyphens_eq (fuel : Nat) (taken input : List Char) :
    readHyphens modes fuel (taken.map fun _ => hyphen) input =
      match modes.takeWhile (· == '-') fuel taken input with
      | (_, []) => none
      | (taken, rest) => some (taken.map fun _ => hyphen, rest) := by
  induction fuel generalizing taken input with
  | zero => cases input <;> rfl
  | succ fuel ih =>
    cases input with
    | nil => rfl
    | cons c rest =>
      by_cases hc : c = '-'
      · subst hc
        exact ih ('-' :: taken) (modes.skip rest)
      · simp [readHyphens, takeWhile, hc]

/-- The members at the start of a class: hyphens, else a closing bracket that stands for
    itself. -/
def readFirst (modes : Modes) (negated : Bool) (taken : List Char) : Scan Level
  | ']' :: rest =>
    if taken = [] then some (⟨negated, none, [⟨.single ']', 0⟩]⟩, modes.skip rest)
    else some (⟨negated, none, taken.map fun _ => hyphen⟩, ']' :: rest)
  | rest => some (⟨negated, none, taken.map fun _ => hyphen⟩, rest)

theorem lexeme_readFirst (modes : Modes) (negated : Bool) (taken : List Char) :
    Lexeme tails (readFirst modes negated taken) := by
  by_cases htaken : taken = []
  · subst htaken
    refine .peek (· == ']') rfl
      (fun _ => modes.lexeme_skip_then (.pure ⟨negated, none, [⟨.single ']', 0⟩]⟩))
      (.pure ⟨negated, none, []⟩) ?_ ?_
    · intro c rest hc
      obtain rfl := beq_iff_eq.mp hc
      rfl
    · intro input hkind
      unfold readFirst
      split
      · simp at hkind
      · rfl
  · refine (Lexeme.pure ⟨negated, none, taken.map fun _ => hyphen⟩).congr fun input => ?_
    unfold readFirst
    split <;> simp [htaken]

/-- Hyphens after an opening bracket, and what stands for itself behind it. -/
def readHyphenated (modes : Modes) (negated : Bool) (input : List Char) :
    Option (Level × List Char) :=
  let (taken, rest) := modes.takeWhile (· == '-') (input.length + 1) [] input
  readFirst modes negated taken rest

theorem lexeme_readHyphenated (modes : Modes) (negated : Bool) :
    Lexeme tails (readHyphenated modes negated) :=
  (modes.lexeme_takeWhile (· == '-') rfl []).bind (lexeme_readFirst modes negated)

/-- A class as it begins after its bracket, where the text may end as well. -/
def readMark (modes : Modes) : Scan Level
  | '^' :: rest => readHyphenated modes true (modes.skip rest)
  | rest => readHyphenated modes false rest

theorem lexeme_readMark (modes : Modes) : Lexeme tails (readMark modes) := by
  refine .peek (· == '^') rfl (fun _ => modes.lexeme_skip_then (lexeme_readHyphenated modes true))
    (lexeme_readHyphenated modes false) ?_ ?_
  · intro c rest hc
    obtain rfl := beq_iff_eq.mp hc
    rfl
  · intro input hkind
    unfold readMark
    split
    · simp at hkind
    · rfl

/-- Hyphens after an opening bracket, and what stands for itself behind them, where more of the
    text has to come. -/
def openHyphenated? (modes : Modes) (negated : Bool) (input : List Char) :
    Option (Level × List Char) := do
  let (parts, input) ← readHyphens modes (input.length + 1) [] input
  match parts, input with
  | [], ']' :: rest =>
    match modes.skip rest with
    | [] => none
    | rest => some (⟨negated, none, [⟨.single ']', 0⟩]⟩, rest)
  | parts, rest => some (⟨negated, none, parts⟩, rest)

theorem openHyphenated?_eq (negated : Bool) (input : List Char) :
    openHyphenated? modes negated input =
      (readHyphenated modes negated input).filter fun read => !read.2.isEmpty := by
  have hread := @readHyphens_eq modes (input.length + 1) [] input
  rw [List.map_nil] at hread
  rw [openHyphenated?, hread, readHyphenated]
  generalize modes.takeWhile (· == '-') (input.length + 1) [] input = taken
  obtain ⟨taken, rest⟩ := taken
  cases rest with
  | nil => rfl
  | cons c rest =>
    by_cases hc : c = ']'
    · subst hc
      cases taken with
      | nil => cases hskip : modes.skip rest <;> simp [readFirst, hskip, Option.filter]
      | cons d taken => rfl
    · cases taken <;> simp [readFirst, hc, Option.filter]

theorem openLevel?_eq (modes : Modes) (input : List Char) :
    openLevel? modes input =
      (readMark modes (modes.skip input)).filter fun read => !read.2.isEmpty := by
  have heq : openLevel? modes input =
      match modes.skip input with
      | '^' :: rest => openHyphenated? modes true (modes.skip rest)
      | rest => openHyphenated? modes false rest := by
    unfold openLevel?
    rcases modes.skip input with _ | ⟨c, rest⟩
    · rfl
    by_cases hc : c = '^'
    · subst hc
      rfl
    · simp [hc]
      rfl
  rw [heq]
  unfold readMark
  split <;> exact openHyphenated?_eq _ _

theorem namedSet?_of_mem {name : List Char} (hclose : ')' ∈ name) :
    namedSet? (String.ofList name) = none := by
  have hne (known : String) (hknown : ')' ∉ known.toList) : String.ofList name ≠ known := by
    rintro rfl
    exact hknown (by simpa using hclose)
  unfold namedSet?
  split
  case h_15 => rfl
  all_goals rename_i heq; exact absurd heq (hne _ (by decide))

/-- A name for a class, up to the colon and the bracket that end it. -/
def readName? (modes : Modes) (negated : Bool) (input : List Char) :
    Option (Option CharClass × List Char) :=
  match input.dropWhile (· != ':') with
  | ':' :: ']' :: rest =>
    (namedSet? (String.ofList (input.takeWhile (· != ':')))).map fun set =>
      (if negated then if modes.unicode then some (.compl (modes.folded set)) else none
        else some (modes.folded set), rest)
  | _ => none

theorem readNamed?_colon (modes : Modes) (input : List Char) :
    readNamed? modes (':' :: input) =
      match input with
      | '^' :: rest => readName? modes true rest
      | rest => readName? modes false rest := by
  cases input with
  | nil => rfl
  | cons c rest =>
    by_cases hc : c = '^'
    · subst hc
      rfl
    · simp [readNamed?, hc]
      rfl

/-- A name that is not finished would go on with the parenthesis. -/
theorem readName?_append (negated : Bool) (input more : List Char) :
    readName? modes negated (input ++ ')' :: more) =
      (readName? modes negated input).map fun read => (read.1, read.2 ++ ')' :: more) := by
  unfold readName?
  rw [List.dropWhile_append, List.takeWhile_append]
  cases hdrop : input.dropWhile (· != ':') with
  | nil =>
    have hall : input.takeWhile (· != ':') = input := by
      simpa [hdrop] using List.takeWhile_append_dropWhile (p := (· != ':')) (l := input)
    have hnone (rest : List Char) : namedSet? (String.ofList (input ++ ')' :: rest)) = none :=
      namedSet?_of_mem (by simp)
    simp only [hall, List.isEmpty_nil, reduceIte,
      List.takeWhile_cons_of_pos (p := (· != ':')) (a := ')') rfl]
    split
    · rw [hnone]
      rfl
    · rfl
  | cons c after =>
    have hlength : (input.takeWhile (· != ':')).length ≠ input.length := by
      have hsum := congrArg List.length
        (List.takeWhile_append_dropWhile (p := (· != ':')) (l := input))
      rw [List.length_append, hdrop, List.length_cons] at hsum
      omega
    simp only [hlength, List.isEmpty_cons, Bool.false_eq_true, reduceIte, List.cons_append]
    have hc : c = ':' := by
      simpa [hdrop] using List.head?_dropWhile_not (· != ':') input
    subst hc
    rcases after with _ | ⟨d, after⟩
    · rfl
    · by_cases hd : d = ']'
      · subst hd
        simp [Function.comp_def]
      · simp [hd]

theorem readNamed?_append (modes : Modes) (input more : List Char) :
    readNamed? modes (input ++ ')' :: more) =
      (readNamed? modes input).map fun read => (read.1, read.2 ++ ')' :: more) := by
  cases input with
  | nil => rfl
  | cons c rest =>
    by_cases hc : c = ':'
    · subst hc
      rw [List.cons_append, readNamed?_colon, readNamed?_colon]
      cases rest with
      | nil => exact readName?_append false [] more
      | cons d rest =>
        by_cases hd : d = '^'
        · subst hd
          exact readName?_append true rest more
        · simpa [hd] using @readName?_append modes false (d :: rest) more
    · simp [readNamed?, hc]

theorem readNamed?_suffix (modes : Modes) {input rest : List Char} {set : Option CharClass}
    (hread : readNamed? modes input = some (set, rest)) : rest <:+ input := by
  have hname {negated : Bool} {input : List Char}
      (hread : readName? modes negated input = some (set, rest)) : rest <:+ input := by
    unfold readName? at hread
    split at hread
    · rename_i left hdrop
      obtain ⟨_, _, heq⟩ := Option.map_eq_some_iff.mp hread
      obtain ⟨_, rfl⟩ := Prod.mk.inj heq
      have hsuffix : ':' :: ']' :: left <:+ input := hdrop ▸ List.dropWhile_suffix _
      exact ((List.suffix_cons _ _).trans (List.suffix_cons _ _)).trans hsuffix
    · cases hread
  cases input with
  | nil => cases hread
  | cons c input =>
    by_cases hc : c = ':'
    · subst hc
      rw [readNamed?_colon] at hread
      refine List.IsSuffix.trans ?_ (List.suffix_cons _ _)
      split at hread
      · exact (hname hread).trans (List.suffix_cons _ _)
      · exact hname hread
    · simp [readNamed?, hc] at hread

/-- One member of a class, unless it is an edge before a brace that begins nothing. -/
def readLiveMember (modes : Modes) : Scan Escape
  | [] => none
  | c :: rest => if c = '\\' then Escape.readLive modes rest else some (.literal c, rest)

theorem lexeme_readLiveMember_cons (modes : Modes) (c : Char) :
    Lexeme tails fun rest => readLiveMember modes (c :: rest) := by
  by_cases hescape : c = '\\'
  · exact (Escape.lexeme_readLive modes).congr fun rest => by simp [readLiveMember, hescape]
  · exact (Lexeme.pure (.literal c)).congr fun rest => by simp [readLiveMember, hescape]

theorem lexeme_readLiveMember (modes : Modes) : Lexeme tails (readLiveMember modes) :=
  .cons rfl (lexeme_readLiveMember_cons modes)

/-- A member that is read only where it is not live is an edge. -/
theorem readMember?_cases (modes : Modes) (input : List Char) :
    readMember? modes input = readLiveMember modes input ∨
      readLiveMember modes input = none ∧
        ∃ condition rest, readMember? modes input = some (.look condition, rest) := by
  rcases input with _ | ⟨c, rest⟩
  · exact .inl rfl
  by_cases hescape : c = '\\'
  · subst hescape
    rcases rest with _ | ⟨d, rest⟩
    · exact .inl rfl
    by_cases hedge : d = 'b'
    · subst hedge
      have hread : readMember? modes ('\\' :: 'b' :: rest) =
          (Escape.readEdge modes rest).map fun read =>
            (.look (.word read.1 !modes.unicode), read.2) := rfl
      have hlive : readLiveMember modes ('\\' :: 'b' :: rest) =
          (Escape.readLiveEdge modes rest).map fun read =>
            (.look (.word read.1 !modes.unicode), read.2) := rfl
      rw [hread, hlive, Escape.readLiveEdge]
      split_ifs
      · cases Escape.readEdge modes rest with
        | none => exact .inl rfl
        | some read => exact .inr ⟨rfl, _, _, rfl⟩
      · exact .inl rfl
    · left
      simp [readMember?, readLiveMember, Escape.readLive, hedge]
  · left
    simp [readMember?, readLiveMember, hescape]

/-- The characters from one member of a class to another. -/
def rangeSet? (modes : Modes) : Escape → Escape → Option CharClass
  | .literal least, .literal greatest => do
    let _ ← character? modes least
    let _ ← character? modes greatest
    if least ≤ greatest then some (.range least.toNat greatest.toNat) else none
  | _, _ => none

theorem rangeSet?_look (first : Escape) (condition : Look) :
    rangeSet? modes first (.look condition) = none := by
  cases first <;> rfl

theorem isLoneHyphen_eq (modes : Modes) (input : List Char) :
    isLoneHyphen modes input = (modes.skip input).head?.any fun c => c == ']' || c == '-' := by
  unfold isLoneHyphen
  cases modes.skip input with
  | nil => rfl
  | cons c rest =>
    by_cases hclose : c = ']'
    · simp [hclose]
    · by_cases hhyphen : c = '-' <;> simp [hclose, hhyphen]

/-- What comes after the first member of a range, where the text may end as well. -/
def readAfterFirst (modes : Modes) (first : Escape) : Scan CharClass
  | '-' :: after =>
    if isLoneHyphen modes after then (memberSet? modes first).map fun set => (set, '-' :: after)
    else
      (readLiveMember modes (modes.skip after)).bind fun read =>
        (rangeSet? modes first read.1).map fun set => (set, read.2)
  | rest => (memberSet? modes first).map fun set => (set, rest)

theorem lexeme_readAfterFirst (modes : Modes) (first : Escape) :
    Lexeme tails (readAfterFirst modes first) := by
  refine modes.lexeme_lookahead '-' (fun c => c == ']' || c == '-') (memberSet? modes first)
    (by decide) rfl ((lexeme_readLiveMember modes).bind? (rangeSet? modes first)) rfl
    (.ofOption (memberSet? modes first) id) (fun rest => ?_) fun input hhyphen => ?_
  · rw [← isLoneHyphen_eq]
    rfl
  · unfold readAfterFirst
    split
    · simp at hhyphen
    · rfl

/-- A member of a class, or a range, where the text may end as well. -/
def readRange (modes : Modes) (input : List Char) : Option (CharClass × List Char) :=
  (readLiveMember modes input).bind fun read => readAfterFirst modes read.1 (modes.skip read.2)

theorem lexeme_readRange_cons (modes : Modes) (c : Char) :
    Lexeme tails fun rest => readRange modes (c :: rest) :=
  (lexeme_readLiveMember_cons modes c).bind fun first =>
    modes.lexeme_skip_then (lexeme_readAfterFirst modes first)

/-- What comes after the first member of a range, where more of the text has to come. -/
def readAfterFirst? (modes : Modes) (first : Escape) : Scan CharClass
  | [] => none
  | '-' :: after =>
    if isLoneHyphen modes after then (memberSet? modes first).map fun set => (set, '-' :: after)
    else
      (readMember? modes (modes.skip after)).bind fun read =>
        (rangeSet? modes first read.1).map fun set => (set, read.2)
  | rest => (memberSet? modes first).map fun set => (set, rest)

theorem readRange?_eq (modes : Modes) (input : List Char) :
    readRange? modes input =
      (readMember? modes input).bind fun read =>
        readAfterFirst? modes read.1 (modes.skip read.2) := by
  unfold readRange?
  cases readMember? modes input with
  | none => rfl
  | some read =>
    obtain ⟨first, rest⟩ := read
    simp only [Option.bind_eq_bind, Option.bind_some]
    generalize modes.skip rest = before
    rcases before with _ | ⟨c, after⟩
    · rfl
    by_cases hhyphen : c = '-'
    · subst hhyphen
      simp only [readAfterFirst?]
      split_ifs
      · exact (Option.map_eq_bind ..).symm
      · congr 1
        funext read
        obtain ⟨last, rest⟩ := read
        cases first with
        | literal least =>
          cases last with
          | literal greatest =>
            simp only [rangeSet?]
            cases character? modes least with
            | none => rfl
            | some _ =>
              cases character? modes greatest with
              | none => rfl
              | some _ => by_cases hle : least ≤ greatest <;> simp [hle]
          | members | look => rfl
        | members | look => rfl
    · simp only [readAfterFirst?, List.cons.injEq, hhyphen, false_and, imp_false,
        not_false_eq_true, implies_true]
      exact Option.map_eq_bind.symm

theorem readAfterFirst?_eq (first : Escape) {input : List Char} (hinput : input ≠ []) :
    readAfterFirst? modes first input = readAfterFirst modes first input := by
  rcases input with _ | ⟨c, after⟩
  · exact absurd rfl hinput
  by_cases hhyphen : c = '-'
  · subst hhyphen
    simp only [readAfterFirst?, readAfterFirst]
    split_ifs
    · rfl
    · rcases readMember?_cases modes (modes.skip after) with heq | ⟨hlive, condition, rest, heq⟩
      · rw [heq]
      · rw [hlive, heq]
        simp [rangeSet?_look]
  · simp [readAfterFirst?, readAfterFirst, hhyphen]

theorem readAfterFirst?_look (condition : Look) (input : List Char) :
    readAfterFirst? modes (.look condition) input = none := by
  unfold readAfterFirst?
  split
  · rfl
  · split_ifs
    · rfl
    · cases readMember? modes (modes.skip _) <;> rfl
  · rfl

/-- A range that is read where the text may end is read where it may not, or the text ends. -/
theorem readRange_cases (modes : Modes) (input : List Char) :
    readRange? modes input = readRange modes input ∨
      readRange? modes input = none ∧ ∃ set, readRange modes input = some (set, []) := by
  rw [readRange?_eq, readRange]
  rcases readMember?_cases modes input with heq | ⟨hlive, condition, rest, heq⟩
  · rw [heq]
    cases readLiveMember modes input with
    | none => exact .inl rfl
    | some read =>
      simp only [Option.bind_some]
      cases hskip : modes.skip read.2 with
      | cons c after => exact .inl (readAfterFirst?_eq read.1 (List.cons_ne_nil c after))
      | nil =>
        cases hset : memberSet? modes read.1 with
        | none => exact .inl (by simp [readAfterFirst?, readAfterFirst, hset])
        | some set => exact .inr ⟨rfl, set, by simp [readAfterFirst, hset]⟩
  · left
    rw [hlive, heq]
    exact readAfterFirst?_look condition _

/-- An open bracket, and those around it. -/
abbrev Levels := Level × List Level

/-- The operator that a character stands for where it stands twice. -/
def operator? : Char → Option Op
  | '&' => some .inter
  | '-' => some .diff
  | '~' => some .symmDiff
  | _ => none

theorem operator?_eq_some {c : Char} {op : Op} (hop : operator? c = some op) :
    c = '&' ∧ op = .inter ∨ c = '-' ∧ op = .diff ∨ c = '~' ∧ op = .symmDiff := by
  unfold operator? at hop
  split at hop <;> simp_all

/-- What comes after an opening bracket inside a class. -/
def readInner (modes : Modes) (levels : Levels) : Scan (Levels ⊕ Part) :=
  Scan.orElse (readNamed? modes)
    (fun set? rest => set?.map fun set => (.inl (levels.1.add ⟨set, 0⟩, levels.2), rest))
    fun input => (readMark modes (modes.skip input)).map fun read =>
      (.inl (read.1, levels.1 :: levels.2), read.2)

/-- What is left open where a bracket is closed, or the whole class. -/
def Levels.close (outer : List Level) (part : Part) : Levels ⊕ Part :=
  match outer with
  | [] => .inr part
  | parent :: outer => .inl (parent.add part, outer)

/-- Adds a member or a range to the innermost bracket. -/
def addRange (modes : Modes) (levels : Levels) (input : List Char) :
    Option ((Levels ⊕ Part) × List Char) :=
  (readRange modes input).map fun read =>
    (.inl (levels.1.add ⟨read.1, 0⟩, levels.2), read.2)

/-- One step inside a class. -/
def levelStep (modes : Modes) (levels : Levels) : Scan (Levels ⊕ Part)
  | [] => none
  | c :: rest =>
    if c = '[' then readInner modes levels rest
    else if c = ']' then
      (levels.1.close? modes).map fun part => (Levels.close levels.2 part, rest)
    else
      match operator? c with
      | some op =>
        if rest.head? = some c then some (.inl (levels.1.operator modes op, levels.2), rest.tail)
        else addRange modes levels (c :: rest)
      | none => addRange modes levels (c :: rest)

theorem lexeme_readInner (modes : Modes) (levels : Levels) :
    Lexeme tails (readInner modes levels) := by
  have hinner := (modes.lexeme_skip_then (lexeme_readMark modes)).map fun inner =>
    (.inl (inner, levels.1 :: levels.2) : Levels ⊕ Part)
  exact .orElse (readNamed?_suffix modes)
    (fun input more _ _ => readNamed?_append modes input more) (fun set? => .ofOption set? _) hinner

theorem lexeme_levelStep_cons (modes : Modes) (levels : Levels) (c : Char) :
    Lexeme tails fun rest => levelStep modes levels (c :: rest) := by
  have hrange : Lexeme tails fun rest => addRange modes levels (c :: rest) :=
    (lexeme_readRange_cons modes c).map fun set =>
      (.inl (levels.1.add ⟨set, 0⟩, levels.2) : Levels ⊕ Part)
  simp only [levelStep]
  split_ifs
  · exact lexeme_readInner modes levels
  · exact .ofOption (levels.1.close? modes) (Levels.close levels.2)
  · cases hop : operator? c with
    | none => exact hrange
    | some op =>
      have hclose : (')' == c) = false := by
        rw [beq_eq_false_iff_ne]
        rintro rfl
        cases hop
      refine .peek (· == c) hclose
        (fun _ => .pure (.inl (levels.1.operator modes op, levels.2))) hrange ?_ ?_
      · intro d rest hd
        obtain rfl := beq_iff_eq.mp hd
        simp
      · intro rest hrest
        have hne : rest.head? ≠ some c := by
          intro heq
          simp [heq] at hrest
        simp [hne]

theorem levelStep_operator {levels : Levels} {c : Char} {op : Op} (hop : operator? c = some op)
    (rest : List Char) :
    levelStep modes levels (c :: c :: rest) =
      some (.inl (levels.1.operator modes op, levels.2), rest) := by
  obtain ⟨rfl, rfl⟩ | ⟨rfl, rfl⟩ | ⟨rfl, rfl⟩ := operator?_eq_some hop <;> rfl

theorem levelStep_range {levels : Levels} {c : Char} {rest : List Char} (hopen : c ≠ '[')
    (hclose : c ≠ ']') (honce : ¬ ∃ op, operator? c = some op ∧ rest.head? = some c) :
    levelStep modes levels (c :: rest) = addRange modes levels (c :: rest) := by
  rw [levelStep, if_neg hopen, if_neg hclose]
  split
  · rename_i op hop
    rw [if_neg fun hhead => honce ⟨op, hop, hhead⟩]
  · rfl

theorem readLevels_nil (fuel : Nat) (level : Level) (outer : List Level) :
    readLevels modes fuel level outer [] = none := by
  cases fuel with
  | zero => rfl
  | succ fuel =>
    have hskip : modes.skip [] = [] := List.suffix_nil.mp (modes.skip_suffix [])
    rw [readLevels, hskip]

theorem readLevels_eq (fuel : Nat) (levels : Levels) (input : List Char) :
    readLevels modes fuel levels.1 levels.2 input =
      Scan.loop (fun levels input => levelStep modes levels (modes.skip input)) fuel levels
        input := by
  induction fuel generalizing levels input with
  | zero => rfl
  | succ fuel ih =>
    have hrange (input : List Char) :
        ((readRange? modes input).bind fun read =>
          readLevels modes fuel (levels.1.add ⟨read.1, 0⟩) levels.2 read.2) =
        (addRange modes levels input).bind fun read =>
          read.1.elim (fun next => Scan.loop
            (fun levels input => levelStep modes levels (modes.skip input)) fuel next read.2)
            fun found => some (found, read.2) := by
      rw [addRange, Option.bind_map]
      rcases readRange_cases modes input with heq | ⟨hnone, set, heq⟩
      · rw [heq]
        cases readRange modes input with
        | none => rfl
        | some read => exact ih (levels.1.add ⟨read.1, 0⟩, levels.2) read.2
      · rw [hnone, heq]
        exact (readLevels_nil fuel (levels.1.add ⟨set, 0⟩) levels.2).symm.trans
          (ih (levels.1.add ⟨set, 0⟩, levels.2) [])
    rw [Scan.loop, readLevels]
    generalize modes.skip input = before
    rcases before with _ | ⟨c, rest⟩
    · rfl
    by_cases hopen : c = '['
    · subst hopen
      simp only [levelStep, reduceIte, readInner, Scan.orElse, openLevel?_eq]
      cases readNamed? modes rest with
      | some read =>
        obtain ⟨set?, left⟩ := read
        cases set? with
        | none => rfl
        | some set => exact ih (levels.1.add ⟨set, 0⟩, levels.2) left
      | none =>
        cases readMark modes (modes.skip rest) with
        | none => rfl
        | some read =>
          obtain ⟨inner, left⟩ := read
          cases left with
          | nil =>
            exact (readLevels_nil fuel inner (levels.1 :: levels.2)).symm.trans
              (ih (inner, levels.1 :: levels.2) [])
          | cons d left => exact ih (inner, levels.1 :: levels.2) (d :: left)
    by_cases hclose : c = ']'
    · subst hclose
      simp only [levelStep, hopen, reduceIte]
      cases levels.1.close? modes with
      | none => rfl
      | some part =>
        cases hlevels : levels.2 with
        | nil => rfl
        | cons parent outer => exact ih (parent.add part, outer) rest
    by_cases htwice : ∃ op, operator? c = some op ∧ rest.head? = some c
    · obtain ⟨op, hop, hhead⟩ := htwice
      obtain ⟨rest, rfl⟩ := List.head?_eq_some_iff.mp hhead
      rw [levelStep_operator hop]
      obtain ⟨rfl, rfl⟩ | ⟨rfl, rfl⟩ | ⟨rfl, rfl⟩ := operator?_eq_some hop
      all_goals exact ih (levels.1.operator modes _, levels.2) rest
    · rw [levelStep_range hopen hclose htwice]
      refine Eq.trans ?_ (hrange _)
      split
      case h_7 => rfl
      all_goals simp_all [operator?]

/-- A class before a parenthesis. -/
theorem lexeme_read (modes : Modes) : Lexeme tails (read modes) := by
  let step (levels : Levels) (input : List Char) := levelStep modes levels (modes.skip input)
  have hstep (levels : Levels) : Lexeme tails (step levels) :=
    modes.lexeme_skip_then (.cons rfl (lexeme_levelStep_cons modes levels))
  have hless : Scan.Consumes step :=
    modes.consumes_skip (fun _ => rfl) (lexeme_levelStep_cons modes)
  refine ((modes.lexeme_skip_then (lexeme_readMark modes)).bind fun level =>
    .loop hstep hless (level, [])).congr fun input => ?_
  rw [read, openLevel?_eq]
  cases readMark modes (modes.skip input) with
  | none => rfl
  | some found =>
    obtain ⟨level, rest⟩ := found
    have hlevels := @readLevels_eq modes (rest.length + 1) (level, []) rest
    cases rest with
    | nil => exact (readLevels_nil _ level []).symm.trans hlevels
    | cons c rest => exact hlevels

end Patternwork.Bracket
