import Patternwork.Proofs.Backtrack.Reading.Inside

namespace Patternwork.Backtrack

/-- Reads one element, and passes over what stands before it. -/
def readNext (progress : Progress) (input : List Char) : Option (Progress × List Char) :=
  (skip progress.modes input).bind (readElement progress)

/-- A number of elements lead from one state of the reading to another. -/
inductive Reads : Nat → Progress → List Char → Progress → List Char → Prop
  | refl (progress : Progress) (input : List Char) : Reads 0 progress input progress input
  | next {rounds : Nat} {progress next last : Progress} {input rest left : List Char}
      (hnext : readNext progress input = some (next, rest))
      (hrest : Reads rounds next rest last left) : Reads (rounds + 1) progress input last left

variable {progress next whole : Progress} {input rest : List Char} {fuel rounds : Nat}

theorem Reads.single (hnext : readNext progress input = some (next, rest)) :
    Reads 1 progress input next rest :=
  .next hnext (.refl next rest)

/-- A text is read to its end, or an element of it is read. -/
theorem readElements_cases (hread : readElements fuel progress input = some whole) :
    skip progress.modes input = some [] ∧ progress = whole ∨
      ∃ fewer next rest, fewer + 1 = fuel ∧ readNext progress input = some (next, rest) ∧
        readElements fewer next rest = some whole := by
  cases fuel with
  | zero => cases hread
  | succ fuel =>
    obtain ⟨before, hbefore, hread⟩ := Option.bind_eq_some_iff.mp hread
    cases before with
    | nil => exact .inl ⟨hbefore, Option.some.inj hread⟩
    | cons c before =>
      obtain ⟨⟨next, rest⟩, helement, hread⟩ := Option.bind_eq_some_iff.mp hread
      refine .inr ⟨fuel, next, rest, rfl, ?_, hread⟩
      rw [readNext, hbefore]
      exact helement

theorem readElements_of_skip_eq_none (hskip : skip progress.modes input = none) (fuel : Nat) :
    readElements fuel progress input = none := by
  cases fuel with
  | zero => rfl
  | succ fuel =>
    rw [readElements, hskip]
    rfl

/-- What is read of a text that has not come to its end begins with an element. -/
theorem exists_of_readElements (hstart : skip progress.modes input ≠ some [])
    (hread : readElements fuel progress input = some whole) :
    ∃ fewer next rest, fewer + 1 = fuel ∧ readNext progress input = some (next, rest) ∧
      readElements fewer next rest = some whole :=
  (readElements_cases hread).resolve_left fun hend => hstart hend.1

theorem readElements_of_readNext_eq_none (hstart : skip progress.modes input ≠ some [])
    (hnext : readNext progress input = none) (fuel : Nat) :
    readElements fuel progress input = none := by
  refine Option.eq_none_iff_forall_ne_some.mpr fun whole hread => ?_
  obtain ⟨_, _, _, _, hsome, _⟩ := exists_of_readElements hstart hread
  cases hnext.symm.trans hsome

theorem readElements_succ (hnext : readNext progress input = some (next, rest)) (fuel : Nat) :
    readElements (fuel + 1) progress input = readElements fuel next rest := by
  obtain ⟨before, hbefore, helement⟩ := Option.bind_eq_some_iff.mp hnext
  rw [readElements, hbefore]
  cases before with
  | nil => cases helement
  | cons c before => simp [helement]

theorem readElements_of_end (hend : skip progress.modes input = some []) (fuel : Nat) :
    readElements (fuel + 1) progress input = some progress := by
  rw [readElements, hend]
  rfl

/-- More rounds than enough make no difference. -/
theorem readElements_add (hread : readElements fuel progress input = some whole) (more : Nat) :
    readElements (fuel + more) progress input = some whole := by
  induction fuel generalizing progress input with
  | zero => cases hread
  | succ fuel ih =>
    rw [show fuel + 1 + more = fuel + more + 1 by omega]
    rcases readElements_cases hread with ⟨hend, rfl⟩ | ⟨fewer, next, rest, heq, hnext, hrest⟩
    · exact readElements_of_end hend _
    · obtain rfl : fewer = fuel := by omega
      rw [readElements_succ hnext]
      exact ih hrest

/-- What is passed over at first makes no difference. -/
theorem readElements_eq_of_skip_eq {other : List Char}
    (hskip : skip progress.modes input = skip progress.modes other) :
    readElements fuel progress input = readElements fuel progress other := by
  cases fuel with
  | zero => rfl
  | succ fuel => rw [readElements, readElements, hskip]

theorem Reads.readElements_eq (hreads : Reads rounds progress input next rest) (fuel : Nat) :
    readElements (fuel + rounds) progress input = readElements fuel next rest := by
  induction hreads with
  | refl => rfl
  | next hnext _ ih => rw [← Nat.add_assoc, readElements_succ hnext, ih]

/-- Elements that are read are read on the way to the end. -/
theorem Reads.readElements_after (hreads : Reads rounds progress input next rest)
    (hread : readElements fuel progress input = some whole) :
    readElements fuel next rest = some whole := by
  rw [← hreads.readElements_eq, readElements_add hread]

theorem readElements_nil (hread : readElements fuel progress [] = some whole) :
    progress = whole := by
  rcases readElements_cases hread with ⟨_, heq⟩ | ⟨_, _, _, _, hnext, _⟩
  · exact heq
  · cases hnext

/-- What opened the innermost group. -/
def Progress.innermost (progress : Progress) : Option Opening :=
  progress.enclosing.head?.map Enclosing.opening

theorem readNext_eq (progress : Progress) (input : List Char) :
    readNext progress input =
      (skip progress.modes input).bind fun before =>
        (scanElement progress.modes progress.innermost before).bind
          (Element.addTo progress before.length) :=
  Option.bind_congr fun before _ => readElement_eq progress before

theorem readNext_of_scan {before : List Char} {element : Element}
    (hskip : skip progress.modes input = some before)
    (hscan : scanElement progress.modes progress.innermost before = some (element, rest)) :
    readNext progress input =
      (element.act? progress before.length rest.length).map fun next => (next, rest) := by
  rw [readNext_eq, hskip, Option.bind_some, hscan, Option.bind_some, Element.addTo]

theorem exists_of_readNext (hnext : readNext progress input = some (next, rest)) :
    ∃ before element, skip progress.modes input = some before ∧
      scanElement progress.modes progress.innermost before = some (element, rest) ∧
      element.act? progress before.length rest.length = some next := by
  rw [readNext_eq] at hnext
  obtain ⟨before, hskip, hnext⟩ := Option.bind_eq_some_iff.mp hnext
  obtain ⟨⟨element, after⟩, hscan, hnext⟩ := Option.bind_eq_some_iff.mp hnext
  obtain ⟨added, hact, heq⟩ := Option.map_eq_some_iff.mp hnext
  obtain ⟨rfl, rfl⟩ := Prod.mk.inj heq
  exact ⟨before, element, hskip, hscan, hact⟩

theorem scanElement_suffix {modes : Modes} {innermost : Option Opening} {element : Element}
    (hscan : scanElement modes innermost input = some (element, rest)) : rest <:+ input :=
  (lexeme_scanElement respected_plainTails modes innermost).suffix hscan

/-- Only the parenthesis closes a group. -/
theorem eq_of_scanElement_close {modes : Modes} {innermost : Option Opening}
    {repetition : Option Quantifier}
    (hscan : scanElement modes innermost input = some (.close repetition, rest)) :
    ∃ after, input = ')' :: after ∧ rest <:+ after := by
  cases input with
  | nil => cases hscan
  | cons c after =>
    rw [scanElement] at hscan
    split at hscan
    next hclose =>
      obtain ⟨⟨_, left⟩, hafter, heq⟩ := Option.map_eq_some_iff.mp hscan
      obtain ⟨_, rfl⟩ := Prod.mk.inj heq
      exact ⟨after, by rw [hclose],
        (lexeme_readAfter respected_plainTails modes innermost).suffix hafter⟩
    next =>
      obtain ⟨_, _, heq⟩ := Option.map_eq_some_iff.mp hscan
      cases heq

/-- Each group that is closed takes a parenthesis. -/
theorem length_add_count_le (hnext : readNext progress input = some (next, rest)) :
    progress.enclosing.length + rest.count ')' ≤ next.enclosing.length + input.count ')' := by
  obtain ⟨before, element, hskip, hscan, hact⟩ := exists_of_readNext hnext
  have hbefore := (skip_suffix hskip).sublist.count_le ')'
  rcases element.length_le_of_act? hact with hlength | ⟨⟨repetition, rfl⟩, hlength⟩
  · have hrest := scanElement_suffix hscan
    have := hrest.sublist.count_le ')'
    omega
  · obtain ⟨after, rfl, hrest⟩ := eq_of_scanElement_close hscan
    have := hrest.sublist.count_le ')'
    rw [List.count_cons_self] at hbefore
    omega

theorem length_lt_of_readNext (hnext : readNext progress input = some (next, rest)) :
    rest.length < input.length := by
  obtain ⟨before, element, hskip, hscan, _⟩ := exists_of_readNext hnext
  refine Nat.lt_of_lt_of_le ?_ (skip_suffix hskip).length_le
  cases before with
  | nil => cases hscan
  | cons c before =>
    rw [scanElement] at hscan
    split at hscan
    · obtain ⟨⟨_, left⟩, hafter, heq⟩ := Option.map_eq_some_iff.mp hscan
      obtain ⟨_, rfl⟩ := Prod.mk.inj heq
      exact Nat.lt_succ_of_le ((lexeme_readAfter respected_plainTails _ _).suffix hafter).length_le
    · obtain ⟨⟨_, left⟩, htoken, heq⟩ := Option.map_eq_some_iff.mp hscan
      obtain ⟨_, rfl⟩ := Prod.mk.inj heq
      exact Nat.lt_succ_of_le ((lexeme_scanToken respected_plainTails _ _).suffix htoken).length_le

/-- More rounds than a text has characters are enough. -/
theorem readElements_of_length_lt (hread : readElements fuel progress input = some whole)
    {other : Nat} (hother : input.length < other) :
    readElements other progress input = some whole := by
  induction fuel generalizing progress input other with
  | zero => cases hread
  | succ fuel ih =>
    obtain ⟨other, rfl⟩ := Nat.exists_eq_succ_of_ne_zero (Nat.ne_zero_of_lt hother)
    rcases readElements_cases hread with ⟨hend, rfl⟩ | ⟨fewer, next, rest, heq, hnext, hrest⟩
    · exact readElements_of_end hend other
    · obtain rfl : fewer = fuel := Nat.succ.inj heq
      have hlength := length_lt_of_readNext hnext
      exact (readElements_succ hnext other).trans (ih hrest (by omega))

theorem length_le_of_readElements (hread : readElements fuel progress input = some whole) :
    progress.enclosing.length ≤ whole.enclosing.length + input.count ')' := by
  induction fuel generalizing progress input with
  | zero => cases hread
  | succ fuel ih =>
    rcases readElements_cases hread with ⟨_, rfl⟩ | ⟨fewer, next, rest, heq, hnext, hrest⟩
    · exact Nat.le_add_right ..
    · obtain rfl : fewer = fuel := by omega
      have := length_add_count_le hnext
      have := ih hrest
      omega

/-- What is passed over closes nothing. -/
theorem length_le_of_skip (hskip : skip progress.modes input = some rest)
    (hread : readElements fuel progress input = some whole) :
    progress.enclosing.length ≤ whole.enclosing.length + rest.count ')' := by
  rw [readElements_eq_of_skip_eq (hskip.trans (skip_eq_self hskip).symm)] at hread
  exact length_le_of_readElements hread

variable {tails : Tails} {outer : List Enclosing} {more : List Char}

/-- Groups that may enclose a pattern, and the text that may come after the parenthesis behind
    it. -/
structure Around (tails : Tails) (outer : List Enclosing) (more : List Char) : Prop where
  room : outer.length < nestLimit
  allowed : tails.Allowed more

theorem Around.plain (haround : Around plainTails outer more) : Plain more := haround.allowed

/-- What is read of a pattern inside groups, before a parenthesis and more. -/
def readInside (outer : List Enclosing) (more : List Char) (fuel : Nat) (progress : Progress)
    (input : List Char) : Option Progress :=
  readElements fuel (progress.inside outer (more.length + 1)) (input ++ ')' :: more)

/-- An element that is read of a pattern inside groups as it is on its own, if there is room for
    it. -/
structure KeptNext (tails : Tails) (limit : Nat) (progress : Progress) (input : List Char)
    (next : Progress) (rest : List Char) : Prop where
  alone : readNext progress input = some (next, rest)
  limit_pos : 0 < limit
  nestLimit_le : nestLimit ≤ limit + (progress.enclosing.length + 1)
  starts : ∀ {more}, tails.Allowed more → skip progress.modes (input ++ ')' :: more) ≠ some []
  inside : ∀ {outer more}, Around tails outer more →
    readNext (progress.inside outer (more.length + 1)) (input ++ ')' :: more) =
      if outer.length < limit then some (next.inside outer (more.length + 1), rest ++ ')' :: more)
      else none

/-- What comes next of a pattern, on its own and inside groups. -/
inductive Round (progress : Progress) (input : List Char) : Prop
  | kept {limit : Nat} {next : Progress} {rest : List Char}
      (hkept : KeptNext plainTails limit progress input next rest)
  /-- The pattern ends, and the parenthesis comes next. -/
  | ended (halone : skip progress.modes input = some [])
      (hinside : ∀ {more}, Plain more →
        skip progress.modes (input ++ ')' :: more) = some (')' :: more))
  /-- A comment passes over the parenthesis, and the groups are left open. -/
  | lost
      (hopened : ∀ {outer more fuel whole}, Around plainTails outer more →
        readInside outer more fuel progress input = some whole →
        outer.length ≤ whole.enclosing.length)
      (hclosed : ∀ {more fuel whole}, Plain more →
        readElements fuel progress input = some whole → whole.enclosing = [] →
        readInside [] more fuel progress input = some whole)
  /-- Nothing can be read, inside groups nothing that closes them. -/
  | failed (halone : ∀ fuel, readElements fuel progress input = none)
      (hinside : ∀ {outer more fuel whole}, Around plainTails outer more →
        readInside outer more fuel progress input = some whole →
        outer.length ≤ whole.enclosing.length + more.count ')')
  /-- The parenthesis closes a group that encloses the pattern. -/
  | closes {rest : List Char} (hgroups : progress.enclosing = [])
      (hclose : skip progress.modes input = some (')' :: rest))

/-- An element is the same inside groups, unless it closes one of them. -/
theorem scanElement_inside {modes : Modes} {c : Char} {extra : Nat}
    (hopen : c = ')' → progress.enclosing ≠ []) (rest : List Char) :
    scanElement modes (progress.inside outer extra).innermost (c :: rest) =
      scanElement modes progress.innermost (c :: rest) := by
  rw [scanElement, scanElement]
  split
  next hclose =>
    obtain ⟨⟨opening, branches⟩, enclosing, henclosing⟩ := List.exists_cons_of_ne_nil (hopen hclose)
    simp only [Progress.innermost, Progress.inside, henclosing, List.map_cons, List.cons_append,
      List.head?_cons, Option.map_some, Enclosing.shift]
    cases opening <;> rfl
  next => rfl

/-- An element that does not close a group around a pattern leaves these groups open. -/
theorem length_le_of_act?_inside {extra before after : Nat} {element : Element}
    (hopen : ∀ repetition, element = .close repetition → progress.enclosing ≠ [])
    (hact : element.act? (progress.inside outer extra) before after = some next) :
    outer.length ≤ next.enclosing.length := by
  rcases element.length_le_of_act? hact with hlength | ⟨⟨repetition, rfl⟩, hlength⟩ <;>
    rw [progress.length_inside] at hlength
  · omega
  · have := List.length_pos_iff.mpr (hopen repetition rfl)
    omega

/-- After an element that takes the rest of a text nothing is read any more. -/
theorem exists_of_readElements_last {found : Option Progress}
    (hstart : skip progress.modes input ≠ some [])
    (hnext : readNext progress input = found.map fun next => (next, []))
    (hread : readElements fuel progress input = some whole) :
    ∃ fewer, fuel = fewer + 1 ∧ found = some whole ∧ readElements fewer whole [] = some whole := by
  obtain ⟨fewer, _, _, rfl, hsome, hread⟩ := exists_of_readElements hstart hread
  obtain ⟨next, hfound, heq⟩ := Option.map_eq_some_iff.mp (hnext.symm.trans hsome)
  obtain ⟨rfl, rfl⟩ := Prod.mk.inj heq
  obtain rfl := readElements_nil hread
  exact ⟨fewer, rfl, hfound, hread⟩

/-- An element that is not the parenthesis after a pattern closes a group in it, if any. -/
theorem enclosing_ne_nil_of_scanElement {modes : Modes} {innermost : Option Opening} {c : Char}
    {element : Element} (hopen : c = ')' → progress.enclosing ≠ [])
    (hscan : scanElement modes innermost (c :: input) = some (element, rest)) :
    ∀ repetition, element = .close repetition → progress.enclosing ≠ [] := by
  rintro repetition rfl
  obtain ⟨_, hcons, _⟩ := eq_of_scanElement_close hscan
  exact hopen (List.cons.inj hcons).1

/-- What comes next inside groups, where the same element is scanned as on its own. -/
theorem readNext_inside_of_scan {c : Char} {before : List Char} {element : Element}
    (hopen : c = ')' → progress.enclosing ≠ []) (hroom : outer.length < nestLimit)
    (hskip : skip progress.modes (input ++ ')' :: more) = some (c :: (before ++ ')' :: more)))
    (halone : scanElement progress.modes progress.innermost (c :: before) = some (element, rest))
    (hscan : scanElement progress.modes progress.innermost (c :: before ++ ')' :: more) =
      some (element, rest ++ ')' :: more)) :
    readNext (progress.inside outer (more.length + 1)) (input ++ ')' :: more) =
      if outer.length < element.limit progress then
        ((element.act? progress (c :: before).length rest.length).map
          (Progress.inside outer (more.length + 1))).map fun next => (next, rest ++ ')' :: more)
      else none := by
  have hskipInside : skip (progress.inside outer (more.length + 1)).modes (input ++ ')' :: more) =
      some (c :: before ++ ')' :: more) := hskip
  have hscanInside : scanElement (progress.inside outer (more.length + 1)).modes
      (progress.inside outer (more.length + 1)).innermost (c :: before ++ ')' :: more) =
        some (element, rest ++ ')' :: more) := (scanElement_inside hopen _).trans hscan
  rw [readNext_of_scan hskipInside hscanInside, List.length_append, List.length_append,
    show (')' :: more).length = more.length + 1 from rfl,
    element.act?_inside hroom (enclosing_ne_nil_of_scanElement hopen halone)]
  split <;> rfl

/-- An element that is the same inside groups is kept there. -/
theorem KeptNext.of_scan (htails : Respected tails) (hinput : tails.Input input) {c : Char}
    {before : List Char} {element : Element} (hopen : c = ')' → progress.enclosing ≠ [])
    (hskip : skip progress.modes input = some (c :: before))
    (halone : scanElement progress.modes progress.innermost (c :: before) = some (element, rest))
    (heq : ∀ more, tails.Allowed more →
      scanElement progress.modes progress.innermost (c :: before ++ ')' :: more) =
        some (element, rest ++ ')' :: more))
    (hact : element.act? progress (c :: before).length rest.length = some next) :
    KeptNext tails (element.limit progress) progress input next rest where
  alone := by rw [readNext_of_scan hskip halone, hact, Option.map_some]
  limit_pos := element.limit_pos hact
  nestLimit_le := element.nestLimit_le progress
  starts hmore := by
    rw [htails.skip_append_of_cons hinput hmore hskip]
    simp
  inside {outer more} haround := by
    rw [readNext_inside_of_scan hopen haround.room
      (htails.skip_append_of_cons hinput haround.allowed hskip) halone (heq _ haround.allowed),
      hact]
    rfl

/-- A round that does not close a group around the pattern. -/
theorem Round.of_cons {c : Char} {before : List Char}
    (hskip : skip progress.modes input = some (c :: before))
    (hopen : c = ')' → progress.enclosing ≠ []) : Round progress input := by
  have hskipInside {outer : List Enclosing} {more : List Char}
      (haround : Around plainTails outer more) :
      skip (progress.inside outer (more.length + 1)).modes (input ++ ')' :: more) =
        some (c :: before ++ ')' :: more) :=
    respected_plainTails.skip_append_of_cons trivial haround.allowed hskip
  have hscanInside (outer : List Enclosing) (more : List Char) :
      scanElement (progress.inside outer (more.length + 1)).modes
        (progress.inside outer (more.length + 1)).innermost (c :: before ++ ')' :: more) =
      scanElement progress.modes progress.innermost (c :: before ++ ')' :: more) :=
    scanElement_inside hopen _
  have hstart {outer : List Enclosing} {more : List Char} (haround : Around plainTails outer more) :
      skip (progress.inside outer (more.length + 1)).modes (input ++ ')' :: more) ≠ some [] := by
    rw [hskipInside haround]
    simp
  have hnone (hnext : readNext progress input = none) (fuel : Nat) :
      readElements fuel progress input = none :=
    readElements_of_readNext_eq_none (by simp [hskip]) hnext fuel
  cases (lexeme_scanElement respected_plainTails progress.modes progress.innermost).continued
    (c :: before) trivial with
  | @kept element rest halone heq =>
    cases hact : element.act? progress (c :: before).length rest.length with
    | none =>
      have hnext := readNext_of_scan hskip halone
      rw [hact] at hnext
      refine .failed (hnone hnext) fun haround hread => ?_
      have hinside := readNext_inside_of_scan hopen haround.room (hskipInside haround) halone
        (heq _ haround.allowed)
      simp only [hact, Option.map_none, ite_self] at hinside
      cases (readElements_of_readNext_eq_none (hstart haround) hinside _).symm.trans hread
    | some next =>
      exact .kept (.of_scan respected_plainTails trivial hopen hskip halone heq hact)
  | @lost element _ halone heq =>
    have hnext := readNext_of_scan hskip halone
    have hinside {outer : List Enclosing} {more : List Char}
        (haround : Around plainTails outer more) :
        readNext (progress.inside outer (more.length + 1)) (input ++ ')' :: more) =
          (element.act? (progress.inside outer (more.length + 1))
            ((c :: before).length + (more.length + 1)) 0).map fun next => (next, []) := by
      rw [readNext_of_scan (hskipInside haround)
        ((hscanInside outer more).trans (heq more haround.plain)), List.length_append]
      rfl
    refine .lost (fun haround hread => ?_) fun hplain hread hclosed => ?_
    · obtain ⟨_, _, hact, _⟩ :=
        exists_of_readElements_last (hstart haround) (hinside haround) hread
      exact length_le_of_act?_inside (enclosing_ne_nil_of_scanElement hopen halone) hact
    · obtain ⟨fewer, rfl, hact, hread⟩ :=
        exists_of_readElements_last (by simp [hskip]) hnext hread
      refine (readElements_succ ?_ fewer).trans hread
      rw [hinside ⟨by decide, hplain⟩, element.act?_inside_of_closed hact hclosed]
      rfl
  | beyond halone htakes =>
    refine .failed (hnone ?_) fun haround hread => ?_
    · rw [readNext_eq, hskip, Option.bind_some, halone, Option.bind_none]
    · obtain ⟨_, next, rest, _, hsome, hread⟩ := exists_of_readElements (hstart haround) hread
      obtain ⟨start, element, hstart, hscan, hact⟩ := exists_of_readNext hsome
      obtain rfl := Option.some.inj ((hskipInside haround).symm.trans hstart)
      have hopened := length_le_of_act?_inside (enclosing_ne_nil_of_scanElement hopen hscan) hact
      have hlength := length_le_of_readElements hread
      have hcount := (htakes haround.plain
        ((hscanInside _ _).symm.trans hscan)).sublist.count_le ')'
      omega

theorem round (progress : Progress) (input : List Char) : Round progress input := by
  cases (respected_plainTails.lexeme_scanSkip progress.modes).continued input trivial with
  | @kept _ rest halone heq =>
    have hskip := scanSkip_eq_some_iff.mp halone
    cases rest with
    | nil => exact .ended hskip fun hplain => scanSkip_eq_some_iff.mp (heq _ hplain)
    | cons c rest =>
      by_cases hopen : c = ')' → progress.enclosing ≠ []
      · exact .of_cons hskip hopen
      · obtain ⟨rfl, hgroups⟩ := Classical.not_imp.mp hopen
        exact .closes (Classical.not_not.mp hgroups) hskip
  | lost _ halone heq =>
    have hskip := scanSkip_eq_some_iff.mp halone
    have hinside {outer : List Enclosing} {more : List Char} (hplain : Plain more) :
        skip (progress.inside outer (more.length + 1)).modes (input ++ ')' :: more) = some [] :=
      scanSkip_eq_some_iff.mp (heq more hplain)
    refine .lost (fun haround hread => ?_) fun {more fuel _} hplain hread hclosed => ?_
    · have hlength := length_le_of_skip (hinside haround.plain) hread
      rw [progress.length_inside] at hlength
      exact Nat.le_trans (Nat.le_add_left ..) hlength
    · cases fuel with
      | zero => cases hread
      | succ fuel =>
        obtain rfl := Option.some.inj ((readElements_of_end hskip fuel).symm.trans hread)
        refine (readElements_of_end (hinside hplain) fuel).trans ?_
        rw [Progress.inside_of_closed hclosed]
  | beyond halone htakes =>
    have hskip : skip progress.modes input = none := Option.map_eq_none_iff.mp halone
    refine .failed (readElements_of_skip_eq_none hskip) fun {outer more _ _} haround hread => ?_
    cases hinside : skip (progress.inside outer (more.length + 1)).modes (input ++ ')' :: more) with
    | none => cases (readElements_of_skip_eq_none hinside _).symm.trans hread
    | some rest =>
      have hlength := length_le_of_skip hinside hread
      have hcount := (htakes haround.plain (scanSkip_eq_some_iff.mpr hinside)).sublist.count_le ')'
      rw [progress.length_inside] at hlength
      omega

/-- A pattern that is read inside groups as it is on its own, up to the parenthesis that comes after
    it, if there are few enough of them. -/
structure Kept (tails : Tails) (limit rounds : Nat) (progress : Progress) (input : List Char)
    (last : Progress) : Prop where
  readInside_eq : ∀ {outer more}, Around tails outer more → ∀ left,
    readInside outer more (left + rounds) progress input =
      if outer.length < limit then
        readElements left (last.inside outer (more.length + 1)) (')' :: more)
      else none

/-- A pattern that ends in a comment, which passes over the parenthesis after it. -/
structure Lost (fuel : Nat) (progress : Progress) (input : List Char) (last : Progress) : Prop where
  opened : ∀ {outer more fuel whole}, Around plainTails outer more →
    readInside outer more fuel progress input = some whole →
    outer.length ≤ whole.enclosing.length
  closed : last.enclosing = [] → ∀ {more}, Plain more →
    readInside [] more fuel progress input = some last

/-- How many groups are open at most while a text is read. -/
def nesting : Nat → Progress → List Char → Nat
  | 0, progress, _ => progress.enclosing.length
  | fuel + 1, progress, input =>
    match readNext progress input with
    | some (next, rest) => max progress.enclosing.length (nesting fuel next rest)
    | none => progress.enclosing.length

theorem nesting_succ (hnext : readNext progress input = some (next, rest)) (fuel : Nat) :
    nesting (fuel + 1) progress input =
      max progress.enclosing.length (nesting fuel next rest) := by
  rw [nesting, hnext]

section

variable {limit further : Nat} {last : Progress}

namespace KeptNext

theorem readInside_succ (hkept : KeptNext tails limit progress input next rest)
    (haround : Around tails outer more) (fuel : Nat) :
    readInside outer more (fuel + 1) progress input =
      if outer.length < limit then readInside outer more fuel next rest else none := by
  have hnext := hkept.inside haround
  split
  next hlimit =>
    rw [if_pos hlimit] at hnext
    exact readElements_succ hnext fuel
  next hlimit =>
    rw [if_neg hlimit] at hnext
    exact readElements_of_readNext_eq_none (by exact hkept.starts haround.allowed) hnext _

theorem exists_readInside (hkept : KeptNext tails limit progress input next rest)
    (haround : Around tails outer more)
    (hread : readInside outer more fuel progress input = some whole) :
    ∃ fewer, fewer + 1 = fuel ∧ readInside outer more fewer next rest = some whole := by
  cases fuel with
  | zero => cases hread
  | succ fuel =>
    rw [hkept.readInside_succ haround] at hread
    exact ⟨fuel, rfl, (Option.ite_none_right_eq_some.mp hread).2⟩

end KeptNext

/-- A pattern that has come to its end. -/
theorem Kept.of_end
    (hinside : ∀ {more}, tails.Allowed more →
      skip progress.modes (input ++ ')' :: more) = some (')' :: more)) :
    Kept tails nestLimit 0 progress input progress where
  readInside_eq {outer more} haround left := by
    have hskip := hinside haround.allowed
    rw [if_pos haround.room]
    exact readElements_eq_of_skip_eq (hskip.trans (skip_eq_self hskip).symm)

theorem Kept.of_next (hkept : KeptNext tails limit progress input next rest)
    (hrest : Kept tails further rounds next rest last) :
    Kept tails (min limit further) (rounds + 1) progress input last where
  readInside_eq {outer more} haround left := by
    rw [← Nat.add_assoc, hkept.readInside_succ haround, hrest.readInside_eq haround]
    by_cases hlimit : outer.length < limit <;> simp only [Nat.lt_min, hlimit, true_and, false_and,
      if_true, if_false]

/-- What is read inside groups is read on from the parenthesis after the pattern. -/
theorem Kept.readElements_close (hkept : Kept tails limit rounds progress input last)
    (haround : Around tails outer more)
    (hread : readInside outer more fuel progress input = some whole) :
    outer.length < limit ∧
      readElements fuel (last.inside outer (more.length + 1)) (')' :: more) = some whole :=
  Option.ite_none_right_eq_some.mp
    ((hkept.readInside_eq haround fuel).symm.trans (readElements_add hread rounds))

theorem Lost.of_next (hkept : KeptNext plainTails limit progress input next rest)
    (hrest : Lost fuel next rest last) : Lost (fuel + 1) progress input last where
  opened haround hread := by
    obtain ⟨fewer, _, hread⟩ := hkept.exists_readInside haround hread
    exact hrest.opened haround hread
  closed hlast more hplain := by
    have haround : Around plainTails [] more := ⟨by decide, hplain⟩
    rw [hkept.readInside_succ haround, List.length_nil, if_pos hkept.limit_pos]
    exact hrest.closed hlast hplain

/-- Where no group is open, none is closed. -/
theorem readElements_of_close (hgroups : progress.enclosing = [])
    (hclose : skip progress.modes input = some (')' :: rest)) (fuel : Nat) :
    readElements fuel progress input = none := by
  refine readElements_of_readNext_eq_none (by simp [hclose]) ?_ fuel
  simp [readNext, hclose, readElement, closeGroup, hgroups]

/-- A pattern that is read on its own is kept inside groups, or it ends in a comment. -/
theorem kept_or_lost (hread : readElements fuel progress input = some last) :
    (∃ rounds limit, rounds < fuel ∧ nestLimit ≤ limit + (nesting fuel progress input + 1) ∧
      Kept plainTails limit rounds progress input last) ∨ Lost fuel progress input last := by
  induction fuel generalizing progress input with
  | zero => cases hread
  | succ fuel ih =>
    cases round progress input with
    | @kept limit next rest hkept =>
      rw [readElements_succ hkept.alone] at hread
      rcases ih hread with ⟨rounds, further, hrounds, hfurther, hrest⟩ | hlost
      · refine .inl ⟨rounds + 1, min limit further, Nat.succ_lt_succ hrounds, ?_,
          .of_next hkept hrest⟩
        have hlimit := hkept.nestLimit_le
        rw [nesting_succ hkept.alone]
        omega
      · exact .inr (.of_next hkept hlost)
    | ended halone hinside =>
      obtain rfl := Option.some.inj ((readElements_of_end halone fuel).symm.trans hread)
      exact .inl ⟨0, nestLimit, Nat.succ_pos fuel, Nat.le_add_right .., .of_end hinside⟩
    | lost hopened hclosed =>
      exact .inr ⟨hopened, fun hlast _ hplain => hclosed hplain hread hlast⟩
    | failed halone => cases (halone _).symm.trans hread
    | closes hgroups hclose => cases (readElements_of_close hgroups hclose _).symm.trans hread

/-- What comes next of a text in which no comment can begin is kept inside groups. -/
theorem exists_keptNext (hinput : '#' ∉ input)
    (hnext : readNext progress input = some (next, rest)) :
    '#' ∉ rest ∧ ∃ limit, KeptNext allTails limit progress input next rest := by
  obtain ⟨before, element, hskip, hscan, hact⟩ := exists_of_readNext hnext
  have hbefore : '#' ∉ before := allTails.input_of_suffix hinput (skip_suffix hskip)
  refine ⟨allTails.input_of_suffix hbefore (scanElement_suffix hscan), ?_⟩
  cases before with
  | nil => cases hscan
  | cons c before =>
    have hopen : c = ')' → progress.enclosing ≠ [] := by
      rintro rfl
      obtain ⟨_, _, heq⟩ := Option.map_eq_some_iff.mp hscan
      obtain ⟨rfl, _⟩ := Prod.mk.inj heq
      exact ne_nil_of_closeGroup? hact
    cases (lexeme_scanElement respected_allTails progress.modes progress.innermost).continued
      (c :: before) hbefore with
    | kept halone heq =>
      obtain ⟨rfl, rfl⟩ := Prod.mk.inj (Option.some.inj (halone.symm.trans hscan))
      exact ⟨_, .of_scan respected_allTails hinput hopen hskip halone heq hact⟩
    | lost hsome => exact hsome.choose_spec.elim
    | beyond halone => cases halone.symm.trans hscan

/-- A text in which no comment can begin is kept inside groups, whatever comes after it. -/
theorem exists_kept (hinput : '#' ∉ input)
    (hread : readElements fuel progress input = some last) :
    ∃ rounds limit, Kept allTails limit rounds progress input last := by
  induction fuel generalizing progress input with
  | zero => cases hread
  | succ fuel ih =>
    rcases readElements_cases hread with ⟨hend, rfl⟩ | ⟨fewer, next, rest, heq, hnext, hrest⟩
    · obtain ⟨left, halone, hmore⟩ := exists_skip_append progress.modes hinput
      obtain rfl := Option.some.inj (hend.symm.trans halone)
      exact ⟨0, nestLimit, .of_end fun _ => hmore _⟩
    · obtain rfl : fewer = fuel := Nat.succ.inj heq
      obtain ⟨hleft, limit, hkept⟩ := exists_keptNext hinput hnext
      obtain ⟨rounds, further, hfurther⟩ := ih hleft hrest
      exact ⟨rounds + 1, min limit further, .of_next hkept hfurther⟩

/-- A text that closes a group that it did not open. -/
def ClosesOuter (progress : Progress) (input : List Char) : Prop :=
  ∃ rounds last left rest, Reads rounds progress input last left ∧ last.enclosing = [] ∧
    skip last.modes left = some (')' :: rest)

/-- What is read inside groups is read on its own, unless it closes one of them. -/
theorem exists_readElements_or_closesOuter (haround : Around plainTails outer more)
    (hread : readInside outer more fuel progress input = some whole)
    (hclosed : whole.enclosing.length + more.count ')' < outer.length) :
    (∃ last, readElements fuel progress input = some last) ∨ ClosesOuter progress input := by
  induction fuel generalizing progress input with
  | zero => cases hread
  | succ fuel ih =>
    cases round progress input with
    | kept hkept =>
      obtain ⟨fewer, heq, hrest⟩ := hkept.exists_readInside haround hread
      obtain rfl : fewer = fuel := Nat.succ.inj heq
      rcases ih hrest with ⟨last, hlast⟩ | ⟨rounds, last, left, rest, hreads, hgroups, hclose⟩
      · exact .inl ⟨last, (readElements_succ hkept.alone _).trans hlast⟩
      · exact .inr ⟨rounds + 1, last, left, rest, .next hkept.alone hreads, hgroups, hclose⟩
    | ended halone => exact .inl ⟨progress, readElements_of_end halone fuel⟩
    | lost hopened =>
      have := hopened haround hread
      omega
    | failed _ hinside =>
      have := hinside haround hread
      omega
    | closes hgroups hclose => exact .inr ⟨0, progress, input, _, .refl _ _, hgroups, hclose⟩

end

end Patternwork.Backtrack
