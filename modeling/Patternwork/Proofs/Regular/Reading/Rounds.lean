import Mathlib.Tactic.SplitIfs
import Patternwork.Proofs.Regular.Reading.Frame

namespace Patternwork.Regular

open Modes

variable {modes : Modes} {base p q last whole : Progress} {input rest more other : List Char}
  {token : Token} {fuel : Nat}

/-- What is passed over at the start of a text makes no difference. -/
theorem leads_of_skip_eq (hskip : p.modes.skip input = p.modes.skip other)
    (hlength : other.length ≤ input.length) : Leads readElements p input p other := by
  refine ⟨0, by omega, fun fuel => ?_⟩
  cases fuel with
  | zero => rfl
  | succ fuel =>
    rw [Nat.add_zero, readElements, readElements, hskip]

theorem readElements_of_token
    (hread : readToken p.modes (p.modes.skip input) = some (token, rest)) (fuel : Nat) :
    readElements (fuel + 1) p input =
      (token.act? p).bind fun next => readElements fuel next rest := by
  cases hskip : p.modes.skip input with
  | nil =>
    rw [hskip] at hread
    cases hread
  | cons c after =>
    rw [hskip] at hread
    rw [readElements_of_skip hskip, hread]
    rfl

theorem leads_of_token {next : Progress}
    (hread : readToken p.modes (p.modes.skip input) = some (token, rest))
    (hnext : token.act? p = some next) : Leads readElements p input next rest := by
  refine .single ?_ fun fuel => ?_
  · exact Nat.lt_of_lt_of_le (length_lt_of_readToken hread) (p.modes.length_skip_le input)
  · rw [readElements_of_token hread, hnext]
    rfl

theorem readElements_of_act_eq_none
    (hread : readToken p.modes (p.modes.skip input) = some (token, rest))
    (hnext : token.act? p = none) (fuel : Nat) : readElements fuel p input = none := by
  cases fuel with
  | zero => rfl
  | succ fuel =>
    rw [readElements_of_token hread, hnext]
    rfl

theorem readOpening_ne_close : readOpening modes input ≠ some (.close, rest) := by
  have hnamed (input : List Char) : readNamed input ≠ some (.close, rest) := by
    simp [readNamed]
  unfold readOpening
  split
  · unfold readMarked
    split
    · exact hnamed _
    · unfold readLetter
      split
      · exact hnamed _
      · simp
    · unfold readFlagsToken flagToken?
      intro hread
      obtain ⟨_, _, hread⟩ := Option.bind_eq_some_iff.mp hread
      split_ifs at hread <;> simp at hread
  · simp

/-- Only the parenthesis closes a group. -/
theorem eq_of_readToken_close (hread : readToken modes input = some (.close, rest)) :
    input = ')' :: rest := by
  cases input with
  | nil => cases hread
  | cons c input =>
    rw [readToken] at hread
    unfold readAt at hread
    split at hread
    case h_1 => exact absurd hread readOpening_ne_close
    case h_2 =>
      cases hread
      rfl
    case h_10 =>
      split_ifs at hread
      simp [leafToken] at hread
    all_goals simp [leafToken, readMark] at hread

/-- What is read of a text by tokens that are the same before a parenthesis, whatever comes after
    it. -/
inductive Kept : Progress → List Char → Progress → Prop
  | done {p : Progress} {input : List Char} (halone : p.modes.skip input = [])
      (hclose : ∀ more, p.modes.skip (input ++ ')' :: more) = ')' :: more) : Kept p input p
  | token {p next last : Progress} {input rest : List Char} {token : Token}
      (halone : readToken p.modes (p.modes.skip input) = some (token, rest))
      (hclose : ∀ more, readToken p.modes (p.modes.skip (input ++ ')' :: more)) =
        some (token, rest ++ ')' :: more))
      (hnext : token.act? p = some next) (hrest : Kept next rest last) : Kept p input last

/-- A text that is kept is read after other things, unless it gives a name again. -/
theorem Kept.leads_or (hkept : Kept p input last) (hafter : base.After p q)
    (hbase : ∀ part ∈ base.branches.parts, part.repeatable = false) :
    (∃ last', base.After last last' ∧ Leads readElements q input last' [] ∧
      ∀ more, Leads readElements q (input ++ ')' :: more) last' (')' :: more)) ∨
    base.names ≠ [] ∧ ∀ more fuel, readElements fuel q (input ++ ')' :: more) = none := by
  induction hkept generalizing q with
  | @done p input halone hclose =>
    rw [← hafter.modes_eq] at halone hclose
    refine .inl ⟨q, hafter, leads_of_skip_eq ?_ (Nat.zero_le _), fun more => leads_of_skip_eq ?_ ?_⟩
    · rw [halone]
      exact (List.suffix_nil.mp (q.modes.skip_suffix [])).symm
    · rw [hclose, skip_cons _ (by decide) (by decide)]
    · simp only [List.length_append]
      omega
  | @token p next last input rest token halone hclose hnext hrest ih =>
    rw [← hafter.modes_eq] at halone hclose
    cases token.applied hafter hbase with
    | @both _ next' hfirst hsecond hnextAfter =>
      obtain rfl := Option.some.inj (hnext.symm.trans hfirst)
      have hstep := leads_of_token halone hsecond
      have hstepClose (more : List Char) := leads_of_token (hclose more) hsecond
      rcases ih hnextAfter with ⟨last', hlast, hleads, hleadsClose⟩ | ⟨hnames, hnone⟩
      · exact .inl ⟨last', hlast, hstep.trans hleads,
          fun more => (hstepClose more).trans (hleadsClose more)⟩
      · refine .inr ⟨hnames, fun more fuel => ?_⟩
        cases fuel with
        | zero => rfl
        | succ fuel =>
          rw [readElements_of_token (hclose more), hsecond]
          exact hnone more fuel
    | neither hfirst => cases hnext.symm.trans hfirst
    | taken _ hsecond hnames =>
      exact .inr ⟨hnames, fun more fuel => readElements_of_act_eq_none (hclose more) hsecond fuel⟩
    | closes htoken hgroups =>
      subst htoken
      simp [Token.act?, Progress.closeGroup?, hgroups] at hnext

/-- How a text ends that is read after other things and before a parenthesis. -/
inductive Ends (base p q : Progress) (input : List Char) : Prop
  | kept {last : Progress} (hkept : Kept p input last)
  /-- A comment passes over the parenthesis. -/
  | lost {first last : Progress} (hgroups : base.enclosing.length ≤ last.enclosing.length)
      (hfirst : Leads readElements p input first []) (halone : Leads readElements q input last [])
      (hclose : ∀ more, '\n' ∉ more → Leads readElements q (input ++ ')' :: more) last [])
  | failed (halone : ∀ fuel, readElements fuel q input = none)
      (hclose : ∀ more, '\n' ∉ more → ∀ fuel whole,
        readElements fuel q (input ++ ')' :: more) = some whole →
        ∃ fuel state rest, rest <:+ more ∧ base.enclosing.length ≤ state.enclosing.length ∧
          readElements fuel state rest = some whole)
  /-- The text closes a group that it did not open. -/
  | closes {last last' : Progress} {rest : List Char} (hgroups : last.enclosing = [])
      (hafter : base.After last last')
      (halone : Leads readElements p input last (')' :: rest))
      (hleads : Leads readElements q input last' (')' :: rest))

theorem skip_append {c : Char} (hskip : modes.skip input = c :: rest) (more : List Char) :
    modes.skip (input ++ ')' :: more) = c :: (rest ++ ')' :: more) := by
  cases modes.lexeme_skip.continued input trivial with
  | kept halone heq =>
    obtain ⟨_, rfl⟩ := Prod.mk.inj (Option.some.inj halone)
    rw [hskip] at heq
    exact congrArg Prod.snd (Option.some.inj (heq more trivial))
  | lost _ halone =>
    obtain ⟨_, hnil⟩ := Prod.mk.inj (Option.some.inj halone)
    cases hskip.symm.trans hnil
  | beyond halone => cases halone

theorem readElements_of_readToken_eq_none (hskip : p.modes.skip input ≠ [])
    (hread : readToken p.modes (p.modes.skip input) = none) (fuel : Nat) :
    readElements fuel p input = none := by
  obtain ⟨c, rest, hcons⟩ := List.exists_cons_of_ne_nil hskip
  cases fuel with
  | zero => rfl
  | succ fuel =>
    rw [readElements_of_skip hcons, ← hcons, hread]
    rfl

theorem exists_of_readElements (hskip : p.modes.skip input ≠ [])
    (hread : readElements fuel p input = some whole) :
    ∃ fuel token rest next, readToken p.modes (p.modes.skip input) = some (token, rest) ∧
      token.act? p = some next ∧ readElements fuel next rest = some whole := by
  obtain ⟨c, after, hcons⟩ := List.exists_cons_of_ne_nil hskip
  cases fuel with
  | zero => cases hread
  | succ fuel =>
    rw [readElements_of_skip hcons] at hread
    obtain ⟨⟨token, rest⟩, htoken, hread⟩ := Option.bind_eq_some_iff.mp hread
    obtain ⟨next, hnext, hread⟩ := Option.bind_eq_some_iff.mp hread
    exact ⟨fuel, token, rest, next, hcons ▸ htoken, hnext, hread⟩

theorem length_le_of_act {next : Progress} (htoken : token ≠ .close)
    (hnext : token.act? p = some next) : p.enclosing.length ≤ next.enclosing.length := by
  cases token with
  | close => exact absurd rfl htoken
  | opening =>
    obtain rfl := Option.some.inj hnext
    exact Nat.le_succ _
  | named name =>
    simp only [Token.act?] at hnext
    split at hnext
    · cases hnext
    · obtain rfl := Option.some.inj hnext
      exact Nat.le_succ _
  | switch | bar | part =>
    obtain rfl := Option.some.inj hnext
    exact Nat.le_refl _
  | repetition =>
    simp only [Token.act?, Progress.repeatLast?] at hnext
    split at hnext
    · cases hnext
    · obtain ⟨_, hnext⟩ := Option.ite_none_right_eq_some.mp hnext
      obtain rfl := Option.some.inj hnext
      exact Nat.le_refl _

/-- A round whose token is added on its own and after other things, and what comes after it. -/
theorem Ends.after_token {next next' : Progress}
    (halone : readToken q.modes (q.modes.skip input) = some (token, rest))
    (hclose : ∀ more, readToken q.modes (q.modes.skip (input ++ ')' :: more)) =
      some (token, rest ++ ')' :: more))
    (hmodes : q.modes = p.modes)
    (hfirst : token.act? p = some next) (hsecond : token.act? q = some next')
    (hends : Ends base next next' rest) : Ends base p q input := by
  have hstep := leads_of_token halone hsecond
  have hstepClose (more : List Char) := leads_of_token (hclose more) hsecond
  have hstepFirst : Leads readElements p input next rest := leads_of_token (hmodes ▸ halone) hfirst
  cases hends with
  | kept hkept => exact .kept (.token (hmodes ▸ halone) (hmodes ▸ hclose) hfirst hkept)
  | lost hgroups hrestFirst hrest hrestClose =>
    exact .lost hgroups (hstepFirst.trans hrestFirst) (hstep.trans hrest)
      fun more hmore => (hstepClose more).trans (hrestClose more hmore)
  | failed hrest hrestClose =>
    refine .failed (fun fuel => ?_) fun more hmore fuel whole hread => ?_
    · cases fuel with
      | zero => rfl
      | succ fuel =>
        rw [readElements_of_token halone, hsecond]
        exact hrest fuel
    · cases fuel with
      | zero => cases hread
      | succ fuel =>
        rw [readElements_of_token (hclose more), hsecond] at hread
        exact hrestClose more hmore fuel whole hread
  | closes hgroups hafter hrest hrestLeads =>
    exact .closes hgroups hafter (hstepFirst.trans hrest) (hstep.trans hrestLeads)

/-- Read after other things and before a parenthesis, a text is kept, or it ends in a comment, or
    it cannot be read, or it closes a group that it did not open. -/
theorem ends_of_after (hbase : ∀ part ∈ base.branches.parts, part.repeatable = false)
    (hnames : base.names = []) (hafter : base.After p q) (input : List Char) :
    Ends base p q input := by
  induction hlength : input.length using Nat.strongRecOn generalizing p q input with
  | _ length ih =>
  have hmodes := hafter.modes_eq
  cases hskip : q.modes.skip input with
  | nil =>
    cases q.modes.lexeme_skip.continued input trivial with
    | kept halone heq =>
      obtain ⟨_, rfl⟩ := Prod.mk.inj (Option.some.inj halone)
      rw [hskip] at heq
      refine .kept (.done (hmodes ▸ hskip) fun more => ?_)
      rw [← hmodes]
      exact congrArg Prod.snd (Option.some.inj (heq more trivial))
    | lost _ halone heq =>
      have hend (state : Progress) (hstate : state.modes = q.modes) :
          Leads readElements state input state [] := by
        refine leads_of_skip_eq ?_ (Nat.zero_le _)
        rw [hstate, hskip]
        exact (List.suffix_nil.mp (q.modes.skip_suffix [])).symm
      refine .lost hafter.length_le (hend p hmodes.symm) (hend q rfl) fun more hmore =>
        leads_of_skip_eq ?_ (Nat.zero_le _)
      · refine (congrArg Prod.snd (Option.some.inj (heq more hmore))).trans ?_
        exact (List.suffix_nil.mp (q.modes.skip_suffix [])).symm
    | beyond halone => cases halone
  | cons c after =>
    have hne : q.modes.skip input ≠ [] := by simp [hskip]
    have hcloses {token : Token} {rest : List Char} (htoken : token = .close)
        (hgroups : p.enclosing = []) (hread : readToken q.modes (c :: after) = some (token, rest)) :
        Ends base p q input := by
      have heq := eq_of_readToken_close (htoken ▸ hread)
      have hle := q.modes.length_skip_le input
      rw [hskip, heq] at hle
      have hparen (state : Progress) (hstate : state.modes = q.modes) :
          Leads readElements state input state (')' :: rest) := by
        refine leads_of_skip_eq ?_ hle
        rw [hstate, hskip, heq, skip_cons _ (by decide) (by decide)]
      exact .closes hgroups hafter (hparen p hmodes.symm) (hparen q rfl)
    cases (lexeme_readToken q.modes).continued (c :: after) trivial with
    | @kept token rest halone heq =>
      cases token.applied hafter hbase with
      | both hfirst hsecond hnext =>
        have hless := length_lt_of_readToken halone
        have hle := q.modes.length_skip_le input
        rw [hskip] at hle
        refine .after_token (hskip ▸ halone) (fun more => ?_) hmodes hfirst hsecond
          (ih rest.length (by omega) hnext rest rfl)
        rw [skip_append hskip]
        exact heq more trivial
      | neither _ hsecond =>
        refine .failed (readElements_of_act_eq_none (hskip ▸ halone) hsecond)
          fun more _ fuel whole hread => ?_
        rw [readElements_of_act_eq_none (by rw [skip_append hskip]; exact heq more trivial)
          hsecond] at hread
        cases hread
      | taken _ _ hne => exact absurd hnames hne
      | closes htoken hgroups => exact hcloses htoken hgroups halone
    | @lost token _ halone heq =>
      have hclose {more : List Char} (hmore : '\n' ∉ more) :
          readToken q.modes (q.modes.skip (input ++ ')' :: more)) = some (token, []) := by
        rw [skip_append hskip]
        exact heq more hmore
      cases token.applied hafter hbase with
      | both hfirst hsecond hnext =>
        exact .lost hnext.length_le (leads_of_token (hmodes ▸ hskip ▸ halone) hfirst)
          (leads_of_token (hskip ▸ halone) hsecond)
          fun more hmore => leads_of_token (hclose hmore) hsecond
      | neither _ hsecond =>
        refine .failed (readElements_of_act_eq_none (hskip ▸ halone) hsecond)
          fun more hmore fuel whole hread => ?_
        rw [readElements_of_act_eq_none (hclose hmore) hsecond] at hread
        cases hread
      | taken _ _ hne => exact absurd hnames hne
      | closes htoken hgroups => exact hcloses htoken hgroups halone
    | beyond halone htakes =>
      refine .failed (readElements_of_readToken_eq_none hne (hskip ▸ halone))
        fun more hmore fuel whole hread => ?_
      obtain ⟨fuel, token, rest, next, htoken, hnext, hread⟩ :=
        exists_of_readElements (by simp [skip_append hskip]) hread
      rw [skip_append hskip] at htoken
      have hopen : token ≠ .close := by
        rintro rfl
        obtain ⟨rfl, _⟩ := List.cons.inj (eq_of_readToken_close htoken)
        cases halone
      exact ⟨fuel, next, rest, htakes hmore htoken,
        Nat.le_trans hafter.length_le (length_le_of_act hopen hnext), hread⟩

end Patternwork.Regular
