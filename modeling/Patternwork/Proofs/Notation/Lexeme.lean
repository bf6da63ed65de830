import Patternwork.Notation.Modes

namespace Patternwork

/-- Reads a part off the start of a text, and yields what is left. -/
abbrev Scan (α : Type) := List Char → Option (α × List Char)

/-- The texts in question and their ends, the texts that may come after a parenthesis behind them,
    and those among them that a comment passes over to their end. -/
structure Tails where
  Input : List Char → Prop
  Allowed : List Char → Prop
  Lost : List Char → Prop
  input_of_suffix : ∀ {input rest}, Input input → rest <:+ input → Input rest
  allowed_of_lost : ∀ {more}, Lost more → Allowed more

variable {α β σ : Type}

section Spans

variable {holds : Char → Bool} {input more : List Char}

theorem dropWhile_append_of_stop (hstop : input.dropWhile holds ≠ []) :
    (input ++ more).dropWhile holds = input.dropWhile holds ++ more := by
  rw [List.dropWhile_append, if_neg (by simpa using hstop)]

theorem takeWhile_append_of_stop (hstop : input.dropWhile holds ≠ []) :
    (input ++ more).takeWhile holds = input.takeWhile holds := by
  have hlength := congrArg List.length (List.takeWhile_append_dropWhile (p := holds) (l := input))
  rw [List.length_append] at hlength
  have hpos := List.length_pos_iff.mpr hstop
  rw [List.takeWhile_append, if_neg (by omega)]

theorem dropWhile_append_cons {c : Char} (hstop : holds c = false) :
    (input ++ c :: more).dropWhile holds = input.dropWhile holds ++ c :: more := by
  rw [List.dropWhile_append]
  split
  next hempty => simp_all
  next => rfl

theorem takeWhile_append_cons {c : Char} (hstop : holds c = false) :
    (input ++ c :: more).takeWhile holds = input.takeWhile holds := by
  have hall := List.takeWhile_append_dropWhile (p := holds) (l := input ++ c :: more)
  rw [dropWhile_append_cons hstop, ← List.append_assoc] at hall
  have hinput := List.append_cancel_right hall
  exact List.append_cancel_right (hinput.trans List.takeWhile_append_dropWhile.symm)

end Spans

/-- Takes a character if it comes next, and yields whether it does. -/
def Scan.mark (c : Char) : Scan Bool
  | [] => some (false, [])
  | d :: rest => if d = c then some (true, rest) else some (false, d :: rest)

theorem Scan.mark_of_ne {c : Char} {input : List Char} (hne : ∀ rest, input ≠ c :: rest) :
    mark c input = some (false, input) := by
  cases input with
  | nil => rfl
  | cons d rest => exact if_neg fun hd => hne rest (by rw [hd])

/-- Takes the text up to a character, and that character. -/
def Scan.upTo (stop : Char) (input : List Char) : Option (List Char × List Char) :=
  match input.dropWhile (· != stop) with
  | _ :: rest => some (input.takeWhile (· != stop), rest)
  | [] => none

/-- Goes on in one way if something can be read, and in another one if not. -/
def Scan.orElse (first : Scan α) (next : α → Scan β) (other : Scan β) (input : List Char) :
    Option (β × List Char) :=
  match first input with
  | some read => next read.1 read.2
  | none => other input

section

variable {tails : Tails}

/-- What is read of a text on its own, and what is read of it before a parenthesis and a tail: the
    same, or the tail is lost in a comment, or whatever is read there takes the parenthesis. -/
inductive Continued (tails : Tails) (alone : Option (α × List Char)) (continued : Scan α) : Prop
  | kept {found : α} {rest : List Char} (halone : alone = some (found, rest))
      (heq : ∀ more, tails.Allowed more → continued more = some (found, rest ++ ')' :: more))
  | lost {found : α} (hlost : ∃ more, tails.Lost more) (halone : alone = some (found, []))
      (heq : ∀ more, tails.Lost more → continued more = some (found, []))
  | beyond (halone : alone = none)
      (htakes : ∀ {more found rest}, tails.Lost more → continued more = some (found, rest) →
        rest <:+ more)

/-- Reading goes on after a part, by what has been read. -/
theorem Continued.bind {alone : Option (α × List Char)} {continued : Scan α}
    {next : α → Scan β} (hfirst : Continued tails alone continued)
    (hsuffix : ∀ found {input other rest}, next found input = some (other, rest) → rest <:+ input)
    (hnext : ∀ found rest, alone = some (found, rest) →
      Continued tails (next found rest) fun more => next found (rest ++ ')' :: more)) :
    Continued tails (alone.bind fun read => next read.1 read.2)
      fun more => (continued more).bind fun read => next read.1 read.2 := by
  cases hfirst with
  | @kept found rest halone heq =>
    have hcontinued {more : List Char} (hmore : tails.Allowed more) :
        ((continued more).bind fun read => next read.1 read.2) =
          next found (rest ++ ')' :: more) := by
      rw [heq more hmore, Option.bind_some]
    have hlost {more : List Char} (hmore : tails.Lost more) :=
      hcontinued (tails.allowed_of_lost hmore)
    rw [halone, Option.bind_some]
    cases hnext found rest halone with
    | kept halone heq => exact .kept halone fun more h => (hcontinued h).trans (heq more h)
    | lost hsome halone heq => exact .lost hsome halone fun more h => (hlost h).trans (heq more h)
    | beyond halone htakes =>
      exact .beyond halone fun h hread => htakes h ((hlost h).symm.trans hread)
  | @lost found hsome halone heq =>
    have hcontinued {more : List Char} (hmore : tails.Lost more) :
        ((continued more).bind fun read => next read.1 read.2) = next found [] := by
      rw [heq more hmore, Option.bind_some]
    rw [halone, Option.bind_some]
    cases hread : next found [] with
    | none =>
      exact .beyond rfl fun h hother => by cases hread.symm.trans ((hcontinued h).symm.trans hother)
    | some read =>
      obtain ⟨other, rest⟩ := read
      obtain rfl : rest = [] := List.suffix_nil.mp (hsuffix found hread)
      exact .lost hsome rfl fun more h => (hcontinued h).trans hread
  | beyond halone htakes =>
    rw [halone]
    refine .beyond rfl fun h hread => ?_
    obtain ⟨read, hfound, hread⟩ := Option.bind_eq_some_iff.mp hread
    exact (hsuffix read.1 hread).trans (htakes h hfound)

theorem Continued.congr {alone : Option (α × List Char)} {continued other : Scan α}
    (hother : Continued tails alone other)
    (heq : ∀ more, tails.Allowed more → continued more = other more) :
    Continued tails alone continued := by
  cases hother with
  | kept halone hkept => exact .kept halone fun more h => (heq more h).trans (hkept more h)
  | lost hsome halone hlost =>
    exact .lost hsome halone fun more h =>
      (heq more (tails.allowed_of_lost h)).trans (hlost more h)
  | beyond halone htakes =>
    exact .beyond halone fun h hread =>
      htakes h ((heq _ (tails.allowed_of_lost h)).symm.trans hread)

/-- A part of a notation: it leaves an end of the text, and before a parenthesis it goes on. -/
structure Lexeme (tails : Tails) (scan : Scan α) : Prop where
  suffix : ∀ {input found rest}, scan input = some (found, rest) → rest <:+ input
  continued : ∀ input, tails.Input input →
    Continued tails (scan input) fun more => scan (input ++ ')' :: more)

namespace Lexeme

variable {scan other : Scan α} {next : α → Scan β}

theorem congr (heq : ∀ input, scan input = other input) (hother : Lexeme tails other) :
    Lexeme tails scan := by
  rwa [funext heq]

theorem pure (found : α) : Lexeme tails fun input => some (found, input) where
  suffix hread := by
    obtain ⟨_, rfl⟩ := Prod.mk.inj (Option.some.inj hread)
    exact List.suffix_rfl
  continued _ _ := .kept rfl fun _ _ => rfl

theorem fail : Lexeme tails (fun _ => none : Scan α) where
  suffix hread := by cases hread
  continued _ _ := .beyond rfl fun _ hread => by cases hread

theorem bind (hscan : Lexeme tails scan) (hnext : ∀ found, Lexeme tails (next found)) :
    Lexeme tails fun input => (scan input).bind fun read => next read.1 read.2 where
  suffix hread := by
    obtain ⟨read, hfirst, hread⟩ := Option.bind_eq_some_iff.mp hread
    exact ((hnext read.1).suffix hread).trans (hscan.suffix hfirst)
  continued input hinput :=
    (hscan.continued input hinput).bind (fun found => (hnext found).suffix)
      fun found rest hread => (hnext found).continued rest
        (tails.input_of_suffix hinput (hscan.suffix hread))

theorem map (hscan : Lexeme tails scan) (f : α → β) :
    Lexeme tails fun input => (scan input).map fun read => (f read.1, read.2) := by
  refine (hscan.bind fun found => .pure (f found)).congr fun input => ?_
  exact Option.map_eq_bind

/-- A value that may be missing, of which nothing is read. -/
theorem ofOption (value? : Option α) (f : α → β) :
    Lexeme tails fun input => value?.map fun value => (f value, input) := by
  cases value? with
  | none => exact .fail
  | some value => exact .pure (f value)

/-- A part whose value must make sense. -/
theorem bind? (hscan : Lexeme tails scan) (f : α → Option β) :
    Lexeme tails fun input => (scan input).bind fun read =>
      (f read.1).map fun value => (value, read.2) :=
  hscan.bind fun found => .ofOption (f found) id

/-- A part that is read the same before a parenthesis. -/
theorem ofAppend
    (hsuffix : ∀ {input found rest}, scan input = some (found, rest) → rest <:+ input)
    (happend : ∀ input more, tails.Input input → tails.Allowed more → scan (input ++ ')' :: more) =
      (scan input).map fun read => (read.1, read.2 ++ ')' :: more)) : Lexeme tails scan where
  suffix := hsuffix
  continued input hinput := by
    cases hread : scan input with
    | none =>
      refine .beyond rfl fun {more _ _} hlost hmore => ?_
      rw [happend input more hinput (tails.allowed_of_lost hlost), hread] at hmore
      cases hmore
    | some read =>
      exact .kept rfl fun more hmore => by
        rw [happend input more hinput hmore, hread, Option.map_some]

/-- A part that takes a character, by which it goes on. -/
theorem cons (hnil : scan [] = none) (hcons : ∀ c, Lexeme tails fun rest => scan (c :: rest)) :
    Lexeme tails scan where
  suffix {input} _ _ hread := by
    cases input with
    | nil =>
      rw [hnil] at hread
      cases hread
    | cons c rest => exact ((hcons c).suffix hread).trans (List.suffix_cons c rest)
  continued input hinput := by
    cases input with
    | nil => exact .beyond hnil fun _ hread => (hcons ')').suffix hread
    | cons c rest =>
      exact (hcons c).continued rest (tails.input_of_suffix hinput (List.suffix_cons c rest))

/-- A part that begins with characters of some kind, which may be missing. -/
theorem peek (holds : Char → Bool) {present : Char → Scan α} {absent : Scan α}
    (hclose : holds ')' = false) (hpresent : ∀ c, Lexeme tails (present c))
    (habsent : Lexeme tails absent)
    (hhead : ∀ c rest, holds c = true → scan (c :: rest) = present c rest)
    (helse : ∀ input, input.head?.any holds = false → scan input = absent input) :
    Lexeme tails scan where
  suffix {input} _ _ hread := by
    cases input with
    | nil => exact habsent.suffix ((helse [] rfl).symm.trans hread)
    | cons c rest =>
      cases hkind : holds c with
      | false => exact habsent.suffix ((helse _ (by simpa using hkind)).symm.trans hread)
      | true =>
        exact ((hpresent c).suffix ((hhead c rest hkind).symm.trans hread)).trans
          (List.suffix_cons c rest)
  continued input hinput := by
    cases input with
    | nil =>
      have hmore (more : List Char) : scan ([] ++ ')' :: more) = absent ([] ++ ')' :: more) :=
        helse _ (by simpa using hclose)
      rw [funext hmore, helse [] rfl]
      exact habsent.continued [] hinput
    | cons c rest =>
      cases hkind : holds c with
      | true =>
        have hmore (more : List Char) : scan (c :: rest ++ ')' :: more) =
            present c (rest ++ ')' :: more) := hhead c _ hkind
        rw [funext hmore, hhead c rest hkind]
        exact (hpresent c).continued rest (tails.input_of_suffix hinput (List.suffix_cons c rest))
      | false =>
        have hmore (more : List Char) : scan (c :: rest ++ ')' :: more) =
            absent (c :: rest ++ ')' :: more) := helse _ (by simpa using hkind)
        rw [funext hmore, helse _ (by simpa using hkind)]
        exact habsent.continued (c :: rest) hinput

/-- A part that is something else unless it begins in one way, which is decided before the
    parenthesis. -/
theorem orElse {first : Scan α}
    (hfirst : ∀ {input found rest}, first input = some (found, rest) → rest <:+ input)
    (happend : ∀ input more, tails.Input input → tails.Allowed more →
      first (input ++ ')' :: more) =
        (first input).map fun read => (read.1, read.2 ++ ')' :: more))
    (hnext : ∀ found, Lexeme tails (next found)) {other : Scan β} (hother : Lexeme tails other) :
    Lexeme tails (first.orElse next other) where
  suffix {input _ _} hread := by
    unfold Scan.orElse at hread
    split at hread
    next read hfound => exact ((hnext read.1).suffix hread).trans (hfirst hfound)
    next => exact hother.suffix hread
  continued input hinput := by
    unfold Scan.orElse
    cases hread : first input with
    | none =>
      refine (hother.continued input hinput).congr fun more hmore => ?_
      rw [happend input more hinput hmore, hread]
      rfl
    | some read =>
      have hrest := tails.input_of_suffix hinput (hfirst hread)
      refine ((hnext read.1).continued read.2 hrest).congr fun more hmore => ?_
      rw [happend input more hinput hmore, hread]
      rfl

/-- A part that is one of two, by whether a character of some kind comes next. -/
theorem branch (holds : Char → Bool) {present absent : Scan α} (hclose : holds ')' = false)
    (hpresent : Lexeme tails present) (habsent : Lexeme tails absent) :
    Lexeme tails fun input =>
      if input.head?.any holds then present input else absent input where
  suffix hread := by
    split at hread
    · exact hpresent.suffix hread
    · exact habsent.suffix hread
  continued input hinput := by
    have hhead (more : List Char) : (input ++ ')' :: more).head?.any holds =
        input.head?.any holds := by
      cases input with
      | nil => exact hclose
      | cons c rest => rfl
    simp only [hhead]
    split
    · exact hpresent.continued input hinput
    · exact habsent.continued input hinput

/-- A part that is something else unless a character of some kind comes next, which is left. -/
theorem keep (holds : Char → Bool) (found : α) {other : Scan α} (hclose : holds ')' = false)
    (hother : Lexeme tails other)
    (hhead : ∀ c rest, holds c = true → scan (c :: rest) = some (found, c :: rest))
    (helse : ∀ input, input.head?.any holds = false → scan input = other input) :
    Lexeme tails scan where
  suffix {input _ _} hread := by
    cases input with
    | nil => exact hother.suffix ((helse [] rfl).symm.trans hread)
    | cons c rest =>
      cases hkind : holds c with
      | false => exact hother.suffix ((helse _ (by simpa using hkind)).symm.trans hread)
      | true =>
        obtain ⟨_, rfl⟩ := Prod.mk.inj (Option.some.inj ((hhead c rest hkind).symm.trans hread))
        exact List.suffix_rfl
  continued input hinput := by
    cases hkind : input.head?.any holds with
    | true =>
      cases input with
      | nil => cases hkind
      | cons c rest =>
        replace hkind : holds c = true := hkind
        exact .kept (hhead c rest hkind) fun _ _ => hhead c _ hkind
    | false =>
      have hmore (more : List Char) : scan (input ++ ')' :: more) = other (input ++ ')' :: more) := by
        refine helse _ ?_
        cases input with
        | nil => exact hclose
        | cons c rest => exact hkind
      rw [funext hmore, helse input hkind]
      exact hother.continued input hinput

/-- Whether a character comes next, which is taken. -/
theorem mark {c : Char} (hc : c ≠ ')') : Lexeme tails (Scan.mark c) := by
  refine .peek (· == c) (by simpa using hc.symm) (fun _ => .pure true) (.pure false)
    (fun d rest hd => ?_) fun input hinput => ?_
  · rw [Scan.mark, if_pos (beq_iff_eq.mp hd)]
  · cases input with
    | nil => rfl
    | cons d rest => rw [Scan.mark, if_neg (by simpa using hinput)]

/-- The characters of some kind that come next. -/
theorem span (holds : Char → Bool) (hclose : holds ')' = false) :
    Lexeme tails fun input => some (input.takeWhile holds, input.dropWhile holds) := by
  refine .ofAppend (fun hread => ?_) fun input more _ _ => ?_
  · obtain ⟨_, rfl⟩ := Prod.mk.inj (Option.some.inj hread)
    exact List.dropWhile_suffix _
  · rw [takeWhile_append_cons hclose, dropWhile_append_cons hclose]
    rfl

/-- The text up to a character, which is taken. -/
theorem upTo {stop : Char} (hstop : stop ≠ ')') : Lexeme tails (Scan.upTo stop) where
  suffix {input _ _} hread := by
    unfold Scan.upTo at hread
    split at hread
    next c rest hdrop =>
      obtain ⟨_, rfl⟩ := Prod.mk.inj (Option.some.inj hread)
      exact (List.suffix_cons c rest).trans (hdrop ▸ List.dropWhile_suffix _)
    next => cases hread
  continued input _ := by
    cases hdrop : input.dropWhile (· != stop) with
    | cons c rest =>
      have hne : input.dropWhile (· != stop) ≠ [] := by simp [hdrop]
      refine .kept (by rw [Scan.upTo, hdrop]) fun more _ => ?_
      rw [Scan.upTo, dropWhile_append_of_stop hne, takeWhile_append_of_stop hne, hdrop]
      rfl
    | nil =>
      refine .beyond (by rw [Scan.upTo, hdrop]) fun {more found rest} _ hread => ?_
      have hmore : (input ++ ')' :: more).dropWhile (· != stop) = more.dropWhile (· != stop) := by
        simp [List.dropWhile_append, hdrop, hstop.symm]
      unfold Scan.upTo at hread
      rw [hmore] at hread
      split at hread
      next c after heq =>
        obtain ⟨_, rfl⟩ := Prod.mk.inj (Option.some.inj hread)
        exact (List.suffix_cons c after).trans (heq ▸ List.dropWhile_suffix _)
      next => cases hread

end Lexeme

/-- Repeats a scan that yields a state to go on with, or a result. -/
def Scan.loop (step : σ → Scan (σ ⊕ α)) : Nat → σ → Scan α
  | 0, _, _ => none
  | fuel + 1, state, input =>
    (step state input).bind fun read =>
      read.1.elim (fun next => loop step fuel next read.2) fun found => some (found, read.2)

section Loop

variable {step : σ → Scan (σ ⊕ α)}

/-- Every round but the last takes something of the text. -/
def Scan.Consumes (step : σ → Scan (σ ⊕ α)) : Prop :=
  ∀ ⦃state input next rest⦄, step state input = some (.inl next, rest) → rest.length < input.length

/-- Rounds that each take a part of the text need no more fuel than the text is long. -/
theorem Scan.loop_eq_of_lt {state : σ} {input : List Char} {fuel other : Nat}
    (hless : Consumes step)
    (hfuel : input.length < fuel) (hother : input.length < other) :
    loop step fuel state input = loop step other state input := by
  induction fuel generalizing other state input with
  | zero => exact absurd hfuel (Nat.not_lt_zero _)
  | succ fuel ih =>
    obtain ⟨other, rfl⟩ := Nat.exists_eq_succ_of_ne_zero (Nat.ne_zero_of_lt hother)
    rw [Nat.succ_eq_add_one, loop, loop]
    cases hread : step state input with
    | none => rfl
    | some read =>
      obtain ⟨next | found, rest⟩ := read
      · have hrest : rest.length < input.length := hless hread
        exact ih (Nat.lt_of_lt_of_le hrest (Nat.le_of_lt_succ hfuel))
          (Nat.lt_of_lt_of_le hrest (Nat.le_of_lt_succ hother))
      · rfl

/-- Goes on with the rounds, or stops. -/
def Scan.goOn (step : σ → Scan (σ ⊕ α)) : σ ⊕ α → Scan α
  | .inl next => fun rest => loop step (rest.length + 1) next rest
  | .inr found => fun rest => some (found, rest)

theorem Scan.loop_eq
    (hless : Consumes step) (state : σ) (input : List Char) :
    loop step (input.length + 1) state input =
      (step state input).bind fun read => goOn step read.1 read.2 := by
  rw [loop]
  cases hread : step state input with
  | none => rfl
  | some read =>
    obtain ⟨next | found, rest⟩ := read
    · exact loop_eq_of_lt hless (hless hread) (Nat.lt_succ_self _)
    · rfl

/-- Rounds of a part make a part, if each of them takes something of the text. -/
theorem Lexeme.loop (hstep : ∀ state, Lexeme tails (step state))
    (hless : Scan.Consumes step) (state : σ) :
    Lexeme tails fun input => Scan.loop step (input.length + 1) state input := by
  have hsuffix {length : Nat} : ∀ {state input found rest}, input.length < length →
      Scan.loop step (input.length + 1) state input = some (found, rest) → rest <:+ input := by
    induction length with
    | zero => exact fun hlength => absurd hlength (Nat.not_lt_zero _)
    | succ length ih =>
      intro state input found rest hlength hread
      rw [Scan.loop_eq hless] at hread
      obtain ⟨⟨next | result, left⟩, hfirst, hread⟩ := Option.bind_eq_some_iff.mp hread
      · have hleft : left.length < input.length := hless hfirst
        exact (ih (Nat.lt_of_lt_of_le hleft (Nat.le_of_lt_succ hlength)) hread).trans
          ((hstep state).suffix hfirst)
      · obtain ⟨_, rfl⟩ := Prod.mk.inj (Option.some.inj hread)
        exact (hstep state).suffix hfirst
  refine ⟨fun hread => hsuffix (Nat.lt_succ_self _) hread, fun input hinput => ?_⟩
  induction hlength : input.length using Nat.strongRecOn generalizing state input with
  | _ length ih =>
    have hmore (more : List Char) := Scan.loop_eq hless state (input ++ ')' :: more)
    rw [← hlength, funext hmore, Scan.loop_eq hless]
    refine ((hstep state).continued input hinput).bind (fun read => ?_) fun read rest hread => ?_
    · intro input other rest hread
      cases read with
      | inl next => exact hsuffix (Nat.lt_succ_self _) hread
      | inr found => exact (Lexeme.pure found : Lexeme tails _).suffix hread
    · have hrest := tails.input_of_suffix hinput ((hstep state).suffix hread)
      cases read with
      | inl next => exact ih rest.length (hlength ▸ hless hread) next rest hrest rfl
      | inr found => exact (Lexeme.pure found).continued rest hrest

/-- Takes one character, by which it goes on. -/
def Scan.each (step : σ → Char → Scan (σ ⊕ α)) (state : σ) : Scan (σ ⊕ α)
  | [] => none
  | c :: rest => step state c rest

theorem Lexeme.consumes_each {step : σ → Char → Scan (σ ⊕ α)}
    (hstep : ∀ state c, Lexeme tails (step state c)) : Scan.Consumes (Scan.each step) := by
  intro state input next rest hread
  cases input with
  | nil => cases hread
  | cons c input => exact Nat.lt_succ_of_le ((hstep state c).suffix hread).length_le

/-- Rounds that each take a character at first. -/
theorem Lexeme.loop_each {step : σ → Char → Scan (σ ⊕ α)}
    (hstep : ∀ state c, Lexeme tails (step state c)) (state : σ) :
    Lexeme tails fun input => Scan.loop (Scan.each step) (input.length + 1) state input :=
  .loop (fun state => .cons rfl (hstep state)) (consumes_each hstep) state

end Loop

end

namespace Modes

/-- Any text may come after a parenthesis; a comment passes over a text of one line. -/
def tails : Tails where
  Input _ := True
  Allowed _ := True
  Lost more := '\n' ∉ more
  input_of_suffix _ _ := trivial
  allowed_of_lost _ := trivial

theorem skipVerbose_suffix (inComment : Bool) (input : List Char) :
    skipVerbose inComment input <:+ input := by
  fun_induction skipVerbose inComment input
  case case1 => exact List.suffix_rfl
  case case5 => exact List.suffix_rfl
  all_goals rename_i ih; exact ih.trans (List.suffix_cons _ _)

theorem skipVerbose_of_not_mem {more : List Char} (hmore : '\n' ∉ more) :
    skipVerbose true more = [] := by
  induction more with
  | nil => rfl
  | cons c rest ih =>
    obtain ⟨hc, hrest⟩ := not_or.mp (mt List.mem_cons.mpr hmore)
    have hline : (c != '\n') = true := by simpa using Ne.symm hc
    rw [skipVerbose, if_pos rfl, hline]
    exact ih hrest

theorem continued_skipVerbose (inComment : Bool) (input : List Char) :
    Continued tails (some ((), skipVerbose inComment input))
      fun more => some ((), skipVerbose inComment (input ++ ')' :: more)) := by
  fun_induction skipVerbose inComment input
  case case1 inComment =>
    cases inComment with
    | false => exact .kept rfl fun more _ => rfl
    | true =>
      refine .lost ⟨[], by simp [tails]⟩ rfl fun more hmore => ?_
      have hskip : skipVerbose true more = [] := skipVerbose_of_not_mem hmore
      exact congrArg (fun rest => some ((), rest)) hskip
  case case2 c rest ih => exact ih
  case case3 inComment rest hcode ih => simpa [skipVerbose, hcode] using ih
  case case4 inComment c rest hcode hmark hblank ih =>
    simpa [skipVerbose, hcode, hmark, hblank] using ih
  case case5 inComment c rest hcode hmark hblank =>
    refine .kept rfl fun more _ => ?_
    simp [skipVerbose, hcode, hmark, hblank]

/-- What is passed over is a part that can be read of any text. -/
theorem lexeme_skip (modes : Modes) : Lexeme tails fun input => some ((), modes.skip input) := by
  cases hverbose : modes.verbose with
  | false =>
    refine (Lexeme.pure ()).congr fun input => ?_
    simp [skip, hverbose]
  | true =>
    have hskip (input : List Char) : modes.skip input = skipVerbose false input := by
      simp [skip, hverbose]
    refine Lexeme.congr (fun input => congrArg (fun rest => some ((), rest)) (hskip input))
      ⟨fun hread => ?_, fun input _ => continued_skipVerbose false input⟩
    obtain ⟨_, rfl⟩ := Prod.mk.inj (Option.some.inj hread)
    exact skipVerbose_suffix false _

/-- A part that is read after what is passed over. -/
theorem lexeme_skip_then (modes : Modes) {scan : Scan α} (hscan : Lexeme tails scan) :
    Lexeme tails fun input => scan (modes.skip input) :=
  (lexeme_skip modes).bind fun _ => hscan

theorem skip_suffix (modes : Modes) (input : List Char) : modes.skip input <:+ input :=
  (lexeme_skip modes).suffix rfl

theorem length_skip_le (modes : Modes) (input : List Char) :
    (modes.skip input).length ≤ input.length :=
  (skip_suffix modes input).length_le

/-- A part that begins with a character, unless it is left to what comes after: that is decided by
    the next character that counts. -/
theorem lexeme_lookahead (modes : Modes) (c : Char) (stops : Char → Bool) (found? : Option α)
    {scan present absent : Scan α} (hc : c ≠ ')') (hclose : stops ')' = false)
    (hpresent : Lexeme tails present) (hend : present [] = none) (habsent : Lexeme tails absent)
    (hhead : ∀ rest, scan (c :: rest) =
      if (modes.skip rest).head?.any stops then found?.map fun found => (found, c :: rest)
      else present (modes.skip rest))
    (helse : ∀ input, input.head? ≠ some c → scan input = absent input) : Lexeme tails scan where
  suffix {input found rest} hread := by
    by_cases hstart : input.head? = some c
    · obtain ⟨after, rfl⟩ := List.head?_eq_some_iff.mp hstart
      rw [hhead] at hread
      split at hread
      · obtain ⟨_, _, hread⟩ := Option.map_eq_some_iff.mp hread
        cases hread
        exact List.suffix_rfl
      · exact ((hpresent.suffix hread).trans (modes.skip_suffix after)).trans
          (List.suffix_cons c after)
    · exact habsent.suffix ((helse input hstart).symm.trans hread)
  continued input hinput := by
    by_cases hstart : input.head? = some c
    · obtain ⟨after, rfl⟩ := List.head?_eq_some_iff.mp hstart
      simp only [List.cons_append, hhead]
      cases modes.lexeme_skip.continued after trivial with
      | @kept _ before halone heq =>
        have hskip : modes.skip after = before := congrArg Prod.snd (Option.some.inj halone)
        have hmore (more : List Char) : modes.skip (after ++ ')' :: more) = before ++ ')' :: more :=
          congrArg Prod.snd (Option.some.inj (heq more trivial))
        have hsame (more : List Char) :
            (before ++ ')' :: more).head?.any stops = before.head?.any stops := by
          cases before with
          | nil => exact hclose
          | cons d before => rfl
        simp only [hskip, hmore, hsame]
        split
        · cases found? with
          | none => exact .beyond rfl fun _ hread => by cases hread
          | some found => exact .kept rfl fun _ _ => rfl
        · exact hpresent.continued before trivial
      | lost _ halone heq =>
        have hskip : modes.skip after = [] := congrArg Prod.snd (Option.some.inj halone)
        refine .beyond (by simpa [hskip] using hend) fun {more _ _} hlost hread => ?_
        have hmore : modes.skip (after ++ ')' :: more) = [] :=
          congrArg Prod.snd (Option.some.inj (heq more hlost))
        simp [hmore, hend] at hread
      | beyond halone => cases halone
    · have hmore (more : List Char) : scan (input ++ ')' :: more) = absent (input ++ ')' :: more) := by
        refine helse _ ?_
        cases input with
        | nil => simpa using hc.symm
        | cons d input => exact hstart
      rw [funext hmore, helse input hstart]
      exact habsent.continued input hinput

/-- Rounds after what is passed over may have fuel for that as well. -/
theorem lexeme_loop_skip (modes : Modes) {step : σ → Char → Scan (σ ⊕ α)}
    (hstep : ∀ state c, Lexeme tails (step state c)) (state : σ) :
    Lexeme tails fun input =>
      Scan.loop (Scan.each step) (input.length + 1) state (modes.skip input) := by
  refine (modes.lexeme_skip_then (.loop_each hstep state)).congr fun input => ?_
  exact Scan.loop_eq_of_lt (Lexeme.consumes_each hstep)
    (Nat.lt_succ_of_le (modes.length_skip_le input)) (Nat.lt_succ_self _)

/-- Rounds that each take a character after what is passed over. -/
theorem consumes_skip (modes : Modes) {step : σ → Scan (σ ⊕ α)} (hnil : ∀ state, step state [] = none)
    (hcons : ∀ state c, Lexeme tails fun rest => step state (c :: rest)) :
    Scan.Consumes fun state input => step state (modes.skip input) := by
  intro state input next rest hread
  have hle := modes.length_skip_le input
  cases hskip : modes.skip input with
  | nil => simp [hskip, hnil] at hread
  | cons c after =>
    simp only [hskip] at hread hle
    exact Nat.lt_of_lt_of_le (Nat.lt_succ_of_le ((hcons state c).suffix hread).length_le) hle

/-- Takes characters of some kind, latest first, and what is passed over after each of them. -/
def takeWhile (modes : Modes) (holds : Char → Bool) :
    Nat → List Char → List Char → List Char × List Char
  | fuel + 1, taken, c :: rest =>
    if holds c then takeWhile modes holds fuel (c :: taken) (modes.skip rest) else (taken, c :: rest)
  | _, taken, rest => (taken, rest)

theorem takeWhile_eq_of_lt {modes : Modes} {holds : Char → Bool} {fuel other : Nat}
    {taken input : List Char} (hfuel : input.length < fuel) (hother : input.length < other) :
    modes.takeWhile holds fuel taken input = modes.takeWhile holds other taken input := by
  induction fuel generalizing other taken input with
  | zero => exact absurd hfuel (Nat.not_lt_zero _)
  | succ fuel ih =>
    obtain ⟨other, rfl⟩ := Nat.exists_eq_succ_of_ne_zero (Nat.ne_zero_of_lt hother)
    cases input with
    | nil => rfl
    | cons c rest =>
      have hrest := modes.length_skip_le rest
      rw [List.length_cons] at hfuel hother
      rw [takeWhile, takeWhile]
      split
      · exact ih (by omega) (by omega)
      · rfl

theorem lexeme_takeWhile (modes : Modes) (holds : Char → Bool) (hclose : holds ')' = false)
    (taken : List Char) :
    Lexeme tails fun input => some (modes.takeWhile holds (input.length + 1) taken input) := by
  let step (taken : List Char) : Scan (List Char ⊕ List Char)
    | [] => some (.inr taken, [])
    | c :: rest => if holds c then some (.inl (c :: taken), modes.skip rest)
        else some (.inr taken, c :: rest)
  have hstep (taken : List Char) : Lexeme tails (step taken) := by
    refine .peek holds hclose (fun c => modes.lexeme_skip_then (.pure (.inl (c :: taken))))
      (.pure (.inr taken)) (fun c rest hkind => by simp [step, hkind]) fun input hkind => ?_
    cases input with
    | nil => rfl
    | cons c rest => simp_all [step]
  have hless : Scan.Consumes step := by
    intro taken input next rest hread
    cases input with
    | nil => cases hread
    | cons c input =>
      cases hkind : holds c <;> simp only [step, hkind, Bool.false_eq_true, reduceIte] at hread
      · cases hread
      · cases hread
        exact Nat.lt_succ_of_le (modes.length_skip_le input)
  have heq {fuel : Nat} : ∀ {taken input}, input.length < fuel →
      some (modes.takeWhile holds fuel taken input) = Scan.loop step fuel taken input := by
    induction fuel with
    | zero => exact fun hfuel => absurd hfuel (Nat.not_lt_zero _)
    | succ fuel ih =>
      intro taken input hfuel
      cases input with
      | nil => rfl
      | cons c rest =>
        cases hkind : holds c with
        | false => simp [Scan.loop, takeWhile, step, hkind]
        | true =>
          have hrest := modes.length_skip_le rest
          simp only [Scan.loop, takeWhile, step, hkind, reduceIte]
          exact ih (by simp only [List.length_cons] at hfuel; omega)
  exact (Lexeme.loop hstep hless taken).congr fun input => heq (Nat.lt_succ_self _)

end Modes

end Patternwork
