import Patternwork.Backtrack.Reader
import Patternwork.Proofs.Notation.Lexeme

namespace Patternwork.Backtrack

/-- Text that completes nothing that has begun before it. -/
def Plain (text : List Char) : Prop :=
  ∀ c ∈ text, c = ')' ∨ c = '$' ∨ c = '.' ∨ c = '*'

/-- Text that begins so. -/
def PlainStart (text : List Char) : Prop :=
  ∀ c ∈ text.head?, c = ')' ∨ c = '$' ∨ c = '.' ∨ c = '*'

theorem Plain.start {text : List Char} (hplain : Plain text) : PlainStart text :=
  fun c hc => hplain c (List.mem_of_mem_head? hc)

theorem Plain.of_cons {c : Char} {rest : List Char} (hplain : Plain (c :: rest)) : Plain rest :=
  fun d hd => hplain d (List.mem_cons_of_mem _ hd)

variable {verbose : Bool} {modes : Modes} {input rest more : List Char}

theorem skipIgnored_line_of_plain (hplain : Plain input) :
    skipIgnored verbose .line input = some [] := by
  induction input with
  | nil => rfl
  | cons c rest ih =>
    rcases hplain c (List.mem_cons_self ..) with rfl | rfl | rfl | rfl <;>
      simpa [skipIgnored] using ih hplain.of_cons

theorem skipIgnored_nothing_of_start (hstart : PlainStart input) :
    skipIgnored verbose .nothing input = some input := by
  cases input with
  | nil => rfl
  | cons c rest => rcases hstart c rfl with rfl | rfl | rfl | rfl <;> simp [skipIgnored]

theorem skipIgnored_nothing_of_plain (hplain : Plain input) :
    skipIgnored verbose .nothing input = some input :=
  skipIgnored_nothing_of_start hplain.start

theorem Plain.of_suffix {text : List Char} (hplain : Plain text) (hsuffix : rest <:+ text) :
    Plain rest :=
  fun c hc => hplain c (hsuffix.subset hc)

/-- The texts that may come after a parenthesis behind any text. A comment passes over all of them
    to their end. -/
def plainTails : Tails where
  Input _ := True
  Allowed := Plain
  Lost := Plain
  input_of_suffix _ _ := trivial
  allowed_of_lost := id

/-- Behind a text in which no comment can begin any text may come after a parenthesis. -/
def allTails : Tails where
  Input text := '#' ∉ text
  Allowed _ := True
  Lost _ := False
  input_of_suffix hinput hsuffix := fun hmem => hinput (hsuffix.subset hmem)
  allowed_of_lost := False.elim

theorem skipIgnored_suffix {state : Ignored} (hskip : skipIgnored verbose state input = some rest) :
    rest <:+ input := by
  fun_induction skipIgnored verbose state input
  case case4 | case10 | case11 =>
    obtain rfl := Option.some.inj hskip
    exact List.suffix_rfl
  case case12 => cases hskip
  case case1 ih =>
    exact (ih hskip).trans ((List.suffix_cons _ _).trans
      ((List.suffix_cons _ _).trans (List.suffix_cons _ _)))
  case case7 ih => exact (ih hskip).trans ((List.suffix_cons _ _).trans (List.suffix_cons _ _))
  all_goals rename_i ih; exact (ih hskip).trans (List.suffix_cons _ _)

theorem skip_suffix (hskip : skip modes input = some rest) : rest <:+ input :=
  skipIgnored_suffix hskip

/-- No comment begins with the parenthesis that comes after a text. -/
private theorem no_note_append {c : Char}
    (hnote : ∀ after, c = '(' → rest = '?' :: '#' :: after → False) :
    ∀ after, c = '(' → rest ++ ')' :: more = '?' :: '#' :: after → False := by
  intro after hc hrest
  match rest with
  | [] => simp at hrest
  | [d] => simp at hrest
  | d :: e :: rest =>
    obtain ⟨rfl, rfl, _⟩ : d = '?' ∧ e = '#' ∧ rest ++ ')' :: more = after := by
      simpa using hrest
    exact hnote rest hc rfl

/-- Passes over what does not count. -/
def scanIgnored (verbose : Bool) (state : Ignored) (input : List Char) :
    Option (Unit × List Char) :=
  (skipIgnored verbose state input).map fun rest => ((), rest)

/-- A comment in parentheses that does not end takes the parenthesis. -/
theorem continued_scanIgnored (verbose : Bool) (state : Ignored) (input : List Char) :
    Continued plainTails (scanIgnored verbose state input)
      fun more => scanIgnored verbose state (input ++ ')' :: more) := by
  have hnote {input more : List Char} {found : Unit}
      (hread : scanIgnored verbose .note (')' :: input) = some (found, more)) : more <:+ input := by
    obtain ⟨rest, hskip, heq⟩ := Option.map_eq_some_iff.mp hread
    obtain ⟨_, rfl⟩ := Prod.mk.inj heq
    have hafter : skipIgnored verbose .nothing input = some rest := by
      simpa [skipIgnored] using hskip
    exact skipIgnored_suffix hafter
  unfold scanIgnored at hnote ⊢
  fun_induction skipIgnored verbose state input
  case case1 ih => exact ih
  case case2 c rest hmark hline ih =>
    refine ih.congr fun more _ => ?_
    rw [List.cons_append, skipIgnored.eq_2 _ _ _ (no_note_append hmark), if_pos hline]
  case case3 c rest hmark hline hblank ih =>
    refine ih.congr fun more _ => ?_
    rw [List.cons_append, skipIgnored.eq_2 _ _ _ (no_note_append hmark), if_neg hline,
      if_pos hblank]
  case case4 c rest hmark hline hblank =>
    refine .kept rfl fun more _ => ?_
    rw [List.cons_append, skipIgnored.eq_2 _ _ _ (no_note_append hmark), if_neg hline,
      if_neg hblank]
    rfl
  case case5 ih => exact ih
  case case6 c rest hfeed ih =>
    refine ih.congr fun more _ => ?_
    rw [List.cons_append, skipIgnored, if_neg hfeed]
  case case7 ih => exact ih
  case case8 ih =>
    refine ih.congr fun more _ => ?_
    simp [skipIgnored]
  case case9 c rest hescape hstop ih =>
    cases rest with
    | cons d rest =>
      refine ih.congr fun more _ => ?_
      have hc : c ≠ '\\' := fun hc => hescape d rest hc rfl
      rw [List.cons_append, skipIgnored.eq_5 _ _ _ (fun _ _ hc' => absurd hc' hc), if_neg hstop]
    | nil =>
      -- A backslash at the end of the text takes the parenthesis with it.
      refine .beyond rfl fun {more found rest} _ hread => ?_
      by_cases hc : c = '\\'
      · subst hc
        obtain ⟨rest, hskip, heq⟩ := Option.map_eq_some_iff.mp hread
        obtain ⟨_, rfl⟩ := Prod.mk.inj heq
        have hafter : skipIgnored verbose .note more = some rest := hskip
        exact skipIgnored_suffix hafter
      · rw [List.cons_append, skipIgnored.eq_5 _ _ _ (fun _ _ hc' => absurd hc' hc),
          if_neg hstop] at hread
        exact hnote hread
  case case10 =>
    refine .kept rfl fun more hmore => ?_
    rw [List.nil_append, skipIgnored_nothing_of_plain (by simpa [Plain, plainTails] using hmore)]
    rfl
  case case11 =>
    refine .lost ⟨[], fun _ hc => by cases hc⟩ rfl fun more hmore => ?_
    rw [List.nil_append, skipIgnored_line_of_plain (by simpa [Plain, plainTails] using hmore)]
    rfl
  case case12 => exact .beyond rfl fun _ hread => hnote hread

/-- Passes over what does not count under some modes. -/
def scanSkip (modes : Modes) : Scan Unit := scanIgnored modes.verbose .nothing

theorem scanSkip_eq_some_iff :
    scanSkip modes input = some ((), rest) ↔ skip modes input = some rest := by
  simp [scanSkip, scanIgnored, skip]

theorem scanSkip_suffix {found : Unit} (hread : scanSkip modes input = some (found, rest)) :
    rest <:+ input :=
  skipIgnored_suffix (scanSkip_eq_some_iff.mp hread)

/-- Where no comment can begin, only blanks are passed over, whatever comes after the text. -/
theorem exists_skip_append (modes : Modes) (hinput : '#' ∉ input) :
    ∃ rest, skip modes input = some rest ∧
      ∀ more, skip modes (input ++ ')' :: more) = some (rest ++ ')' :: more) := by
  induction input with
  | nil => exact ⟨[], rfl, fun more => by simp [skip, skipIgnored]⟩
  | cons c rest ih =>
    obtain ⟨hc, hrest⟩ := not_or.mp (mt List.mem_cons.mpr hinput)
    have hnote : ∀ after, c = '(' → rest = '?' :: '#' :: after → False := by
      rintro after _ rfl
      simp at hrest
    have hmark : ¬ (modes.verbose && c == '#') = true := by simp [Ne.symm hc]
    unfold skip at ih ⊢
    by_cases hblank : (modes.verbose && (c == ' ' || c == '\r' || c == '\n' || c == '\t')) = true
    · obtain ⟨left, halone, hmore⟩ := ih hrest
      refine ⟨left, ?_, fun more => ?_⟩
      · rw [skipIgnored.eq_2 _ _ _ hnote, if_neg hmark, if_pos hblank]
        exact halone
      · rw [List.cons_append, skipIgnored.eq_2 _ _ _ (no_note_append hnote), if_neg hmark,
          if_pos hblank]
        exact hmore more
    · refine ⟨c :: rest, ?_, fun more => ?_⟩
      · rw [skipIgnored.eq_2 _ _ _ hnote, if_neg hmark, if_neg hblank]
      · rw [List.cons_append, skipIgnored.eq_2 _ _ _ (no_note_append hnote), if_neg hmark,
          if_neg hblank]

/-- Tails that are respected by what is passed over: it ends before the parenthesis, or with the
    text, and then what is left of the tail begins plainly. -/
structure Respected (tails : Tails) : Prop where
  lexeme_scanSkip : ∀ modes, Lexeme tails (scanSkip modes)
  skip_cases : ∀ modes {input more}, tails.Input input → tails.Allowed more →
    (∃ rest, skip modes input = some rest ∧
      skip modes (input ++ ')' :: more) = some (rest ++ ')' :: more)) ∨
    (∀ rest, skip modes input = some rest → rest = []) ∧
      ∀ rest, skip modes (input ++ ')' :: more) = some rest → PlainStart rest

theorem respected_plainTails : Respected plainTails where
  lexeme_scanSkip modes :=
    { suffix := scanSkip_suffix
      continued := fun input _ => continued_scanIgnored modes.verbose .nothing input }
  skip_cases modes {input more} _ hmore := by
    cases continued_scanIgnored modes.verbose .nothing input with
    | @kept _ rest halone heq =>
      exact .inl ⟨rest, scanSkip_eq_some_iff.mp halone, scanSkip_eq_some_iff.mp (heq more hmore)⟩
    | lost _ halone heq =>
      refine .inr ⟨fun rest hskip => ?_, fun rest hskip => ?_⟩
      · exact (Option.some.inj ((scanSkip_eq_some_iff.mp halone).symm.trans hskip)).symm
      · obtain rfl :=
          Option.some.inj ((scanSkip_eq_some_iff.mp (heq more hmore)).symm.trans hskip)
        exact fun _ hc => by cases hc
    | beyond halone htakes =>
      refine .inr ⟨fun rest hskip => ?_, fun rest hskip => ?_⟩
      · cases halone.symm.trans (scanSkip_eq_some_iff.mpr hskip)
      · have hleft := htakes hmore (scanSkip_eq_some_iff.mpr hskip)
        exact (Plain.of_suffix hmore hleft).start

theorem respected_allTails : Respected allTails where
  lexeme_scanSkip modes :=
    { suffix := scanSkip_suffix
      continued := fun input hinput => by
        obtain ⟨rest, hskip, hmore⟩ := exists_skip_append modes hinput
        exact .kept (scanSkip_eq_some_iff.mpr hskip) fun more _ =>
          scanSkip_eq_some_iff.mpr (hmore more) }
  skip_cases modes {input more} hinput _ := by
    obtain ⟨rest, hskip, hmore⟩ := exists_skip_append modes hinput
    exact .inl ⟨rest, hskip, hmore more⟩

/-- What is left is not passed over. -/
theorem skipIgnored_eq_self {state : Ignored} (hskip : skipIgnored verbose state input = some rest) :
    skipIgnored verbose .nothing rest = some rest := by
  fun_induction skipIgnored verbose state input
  case case4 c after hnote hline hblank =>
    obtain rfl := Option.some.inj hskip
    rw [skipIgnored.eq_2 _ _ _ hnote, if_neg hline, if_neg hblank]
  case case10 | case11 =>
    obtain rfl := Option.some.inj hskip
    rfl
  case case12 => cases hskip
  all_goals rename_i ih; exact ih hskip

theorem skip_eq_self (hskip : skip modes input = some rest) : skip modes rest = some rest :=
  skipIgnored_eq_self hskip

section

variable {tails : Tails}

/-- A part that is read after what is passed over. -/
theorem Respected.skip_then (htails : Respected tails) {α : Type} (modes : Modes) {scan : Scan α}
    (hscan : Lexeme tails scan) : Lexeme tails fun input => (skip modes input).bind scan := by
  refine ((htails.lexeme_scanSkip modes).bind fun _ => hscan).congr fun input => ?_
  rw [scanSkip, scanIgnored, Option.bind_map]
  rfl

theorem Respected.skip_append_of_cons (htails : Respected tails) {c : Char}
    (hinput : tails.Input input) (hmore : tails.Allowed more)
    (hskip : skip modes input = some (c :: rest)) :
    skip modes (input ++ ')' :: more) = some (c :: (rest ++ ')' :: more)) := by
  rcases htails.skip_cases modes hinput hmore with ⟨before, halone, heq⟩ | ⟨hend, _⟩
  · obtain rfl := Option.some.inj (halone.symm.trans hskip)
    exact heq
  · cases hend _ hskip

/-- A part that is passed over and read on is the same before a parenthesis, if nothing can be
    read of what begins plainly. -/
theorem Respected.skip_bind_append (htails : Respected tails) {α : Type}
    (hinput : tails.Input input) (hmore : tails.Allowed more) {read : List Char → Option α}
    {extend : α → α} (hstop : ∀ rest, PlainStart rest → read rest = none)
    (hread : ∀ c rest, tails.Input (c :: rest) →
      read (c :: (rest ++ ')' :: more)) = (read (c :: rest)).map extend) :
    (skip modes (input ++ ')' :: more)).bind read = ((skip modes input).bind read).map extend := by
  have hnil : read [] = none := hstop [] fun _ hc => by cases hc
  rcases htails.skip_cases modes hinput hmore with ⟨rest, halone, heq⟩ | ⟨hend, hplain⟩
  · rw [halone, heq, Option.bind_some, Option.bind_some]
    cases rest with
    | nil =>
      have hclose : PlainStart (')' :: more) := fun c hc => .inl (Option.some.inj hc).symm
      simp [hnil, hstop _ hclose]
    | cons c rest => exact hread c rest (tails.input_of_suffix hinput (skip_suffix halone))
  · have hleft : (skip modes input).bind read = none := by
      refine Option.bind_eq_none_iff.mpr fun rest hskip => ?_
      rw [hend rest hskip, hnil]
    have hright : (skip modes (input ++ ')' :: more)).bind read = none :=
      Option.bind_eq_none_iff.mpr fun rest hskip => hstop rest (hplain rest hskip)
    rw [hleft, hright]
    rfl

end

theorem readNumber_append (input more : List Char) :
    readNumber (input ++ ')' :: more) =
      (readNumber input).map fun (n, rest) => (n, rest ++ ')' :: more) := by
  have hstop : Char.isDigit ')' = false := rfl
  unfold readNumber
  rw [takeWhile_append_cons hstop, dropWhile_append_cons hstop]
  dsimp only
  split
  · rfl
  · split <;> rfl

theorem readNumber_of_start (hstart : PlainStart input) : readNumber input = none := by
  cases input with
  | nil => rfl
  | cons c rest => rcases hstart c rfl with rfl | rfl | rfl | rfl <;> rfl

theorem readNumber_suffix {n : Nat} (hread : readNumber input = some (n, rest)) :
    rest <:+ input := by
  unfold readNumber at hread
  dsimp only at hread
  split at hread
  · cases hread
  · split at hread
    · obtain ⟨_, rfl⟩ := Prod.mk.inj (Option.some.inj hread)
      exact List.dropWhile_suffix _
    · cases hread

theorem lexeme_readNumber {tails : Tails} : Lexeme tails readNumber :=
  .ofAppend readNumber_suffix fun input more _ _ => readNumber_append input more

/-- Reads the brace that closes a counted quantifier. -/
def readBrace (modes : Modes) (least : Nat) (greatest : Option Nat) (input : List Char) :
    Option (Nat × Option Nat × List Char) := do
  match ← skip modes input with
  | '\x7d' :: rest => some (least, greatest, rest)
  | _ => none

/-- Reads the upper bound of a counted quantifier, and its brace. -/
def readGreatest (modes : Modes) (least : Nat) (input : List Char) :
    Option (Nat × Option Nat × List Char) := do
  let rest ← skip modes input
  match rest with
  | '\x7d' :: _ => readBrace modes least (some least) rest
  | ',' :: rest =>
    let rest ← skip modes rest
    match readNumber rest with
    | some (greatest, rest) => readBrace modes least (some greatest) rest
    | none => readBrace modes least none rest
  | _ => none

theorem readBounds_eq :
    readBounds modes input =
      (skip modes input).bind fun input =>
        match input with
        | ',' :: _ => readGreatest modes 0 input
        | _ => (readNumber input).bind fun (least, rest) => readGreatest modes least rest := by
  unfold readBounds readGreatest readBrace
  rfl

theorem readBrace_of_start (hstart : PlainStart input) (least : Nat) (greatest : Option Nat) :
    readBrace modes least greatest input = none := by
  unfold readBrace skip
  rw [skipIgnored_nothing_of_start hstart]
  cases input with
  | nil => rfl
  | cons c rest => rcases hstart c rfl with rfl | rfl | rfl | rfl <;> rfl

theorem readBrace_suffix {least : Nat} {greatest : Option Nat} {read : Nat × Option Nat × List Char}
    (hread : readBrace modes least greatest input = some read) : read.2.2 <:+ input := by
  obtain ⟨before, hskip, hread⟩ := Option.bind_eq_some_iff.mp hread
  refine List.IsSuffix.trans ?_ (skip_suffix hskip)
  split at hread
  next rest =>
    obtain rfl := Option.some.inj hread
    exact List.suffix_cons _ rest
  next => cases hread

section

variable {tails : Tails}

theorem Respected.readBrace_append (htails : Respected tails) (hmore : tails.Allowed more)
    (least : Nat) (greatest : Option Nat) (hinput : tails.Input input) :
    readBrace modes least greatest (input ++ ')' :: more) =
      (readBrace modes least greatest input).map fun (least, greatest, rest) =>
        (least, greatest, rest ++ ')' :: more) := by
  unfold readBrace
  refine htails.skip_bind_append hinput hmore ?_ ?_
  · intro rest hrest
    cases rest with
    | nil => rfl
    | cons c rest => rcases hrest c rfl with rfl | rfl | rfl | rfl <;> rfl
  · intro c rest _
    by_cases hc : c = '\x7d'
    · subst hc
      rfl
    · simp [hc]

theorem readGreatest_suffix {least : Nat} {read : Nat × Option Nat × List Char}
    (hread : readGreatest modes least input = some read) : read.2.2 <:+ input := by
  obtain ⟨before, hskip, hread⟩ := Option.bind_eq_some_iff.mp hread
  refine List.IsSuffix.trans ?_ (skip_suffix hskip)
  split at hread
  next => exact readBrace_suffix hread
  next rest =>
    obtain ⟨after, hafter, hread⟩ := Option.bind_eq_some_iff.mp hread
    refine List.IsSuffix.trans ?_ ((skip_suffix hafter).trans (List.suffix_cons _ rest))
    split at hread
    next hnumber => exact (readBrace_suffix hread).trans (readNumber_suffix hnumber)
    next => exact readBrace_suffix hread
  next => cases hread

theorem Respected.readGreatest_append (htails : Respected tails) (hmore : tails.Allowed more)
    (least : Nat) (hinput : tails.Input input) :
    readGreatest modes least (input ++ ')' :: more) =
      (readGreatest modes least input).map fun (least, greatest, rest) =>
        (least, greatest, rest ++ ')' :: more) := by
  unfold readGreatest
  refine htails.skip_bind_append hinput hmore ?_ ?_
  · intro rest hrest
    cases rest with
    | nil => rfl
    | cons c rest => rcases hrest c rfl with rfl | rfl | rfl | rfl <;> rfl
  · intro c rest hrest
    by_cases hclose : c = '\x7d'
    · subst hclose
      exact htails.readBrace_append hmore least (some least) hrest
    · by_cases hcomma : c = ','
      · subst hcomma
        have hafter := tails.input_of_suffix hrest (List.suffix_cons _ rest)
        refine htails.skip_bind_append hafter hmore ?_ ?_
        · intro rest hrest
          simp only [readNumber_of_start hrest]
          exact readBrace_of_start hrest least none
        · intro c rest hrest
          rw [← List.cons_append, readNumber_append]
          cases hnumber : readNumber (c :: rest) with
          | none => exact htails.readBrace_append hmore least none hrest
          | some found =>
            have hleft := tails.input_of_suffix hrest (readNumber_suffix hnumber)
            exact htails.readBrace_append hmore least (some found.1) hleft
      · simp [hclose, hcomma]

theorem Respected.readBounds_append (htails : Respected tails) (hmore : tails.Allowed more)
    (hinput : tails.Input input) :
    readBounds modes (input ++ ')' :: more) =
      (readBounds modes input).map fun (least, greatest, rest) =>
        (least, greatest, rest ++ ')' :: more) := by
  rw [readBounds_eq, readBounds_eq]
  refine htails.skip_bind_append hinput hmore ?_ ?_
  · intro rest hrest
    cases rest with
    | nil => rfl
    | cons c rest => rcases hrest c rfl with rfl | rfl | rfl | rfl <;> rfl
  · intro c rest hrest
    by_cases hcomma : c = ','
    · subst hcomma
      exact htails.readGreatest_append hmore 0 hrest
    · have hnumber := readNumber_append (c :: rest) more
      rw [List.cons_append] at hnumber
      simp only [hnumber]
      cases hfound : readNumber (c :: rest) with
      | none => simp [hcomma]
      | some found =>
        have hleft := tails.input_of_suffix hrest (readNumber_suffix hfound)
        simpa [hcomma] using htails.readGreatest_append hmore found.1 hleft

end

theorem readBounds_suffix {read : Nat × Option Nat × List Char}
    (hread : readBounds modes input = some read) : read.2.2 <:+ input := by
  rw [readBounds_eq] at hread
  obtain ⟨before, hskip, hread⟩ := Option.bind_eq_some_iff.mp hread
  refine List.IsSuffix.trans ?_ (skip_suffix hskip)
  split at hread
  next => exact readGreatest_suffix hread
  next =>
    obtain ⟨_, hnumber, hread⟩ := Option.bind_eq_some_iff.mp hread
    exact (readGreatest_suffix hread).trans (readNumber_suffix hnumber)

theorem readQuantifier_suffix {read : Nat × Option Nat × List Char}
    (hread : readQuantifier modes input = some read) : read.2.2 <:+ input := by
  unfold readQuantifier at hread
  split at hread
  case h_4 => exact (readBounds_suffix hread).trans (List.suffix_cons _ _)
  case h_5 => cases hread
  all_goals
    obtain rfl := Option.some.inj hread
    exact List.suffix_cons _ _

theorem Respected.readQuantifier_append {tails : Tails} (htails : Respected tails)
    (hmore : tails.Allowed more) (modes : Modes) (hinput : tails.Input input) :
    readQuantifier modes (input ++ ')' :: more) =
      (readQuantifier modes input).map fun (least, greatest, rest) =>
        (least, greatest, rest ++ ')' :: more) := by
  cases input with
  | nil => rfl
  | cons c rest =>
    rw [List.cons_append]
    unfold readQuantifier
    split
    case h_4 heq =>
      obtain ⟨rfl, rfl⟩ := List.cons.inj heq
      exact htails.readBounds_append hmore (tails.input_of_suffix hinput (List.suffix_cons _ rest))
    all_goals simp_all

end Patternwork.Backtrack
