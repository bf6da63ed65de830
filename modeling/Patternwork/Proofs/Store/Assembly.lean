import Patternwork.Proofs.Backtrack.Reading.Anchored
import Patternwork.Proofs.Lists.Literal
import Patternwork.Proofs.Regular.Reading.Anchored

namespace Patternwork

open Settings

variable {text letters : String} {given : Option Settings} {shared : Shared}
  {pattern alone : Pattern} {flags : Flags}

/-- What one of the notations accepts behind the flags is compiled. -/
theorem Pattern.exists_compile_iff (hflags : Flags.parse? letters = some flags) :
    (∃ pattern, compile text letters = .ok pattern) ↔
      (∃ a, Regular.parse? (flags.inlineGroup.toList ++ text.toList) = some a) ∨
        ∃ plan, Backtrack.Plan.parse? (flags.inlineGroup.toList ++ text.toList) = some plan := by
  rw [compile, hflags]
  simp only [ofFlags, Matcher.ofText?, String.toList_append]
  cases Regular.parse? (flags.inlineGroup.toList ++ text.toList) with
  | some a => simp
  | none => cases Backtrack.Plan.parse? (flags.inlineGroup.toList ++ text.toList) <;> simp

theorem Pattern.exists_parse?_of_compile
    (hcompile : compile text letters = .ok pattern) (hregular : pattern.isBacktracking = false) :
    ∃ a, Regular.parse? (pattern.flags.inlineGroup.toList ++ text.toList) = some a ∧
      pattern.matcher = .regular a := by
  rcases matcher_cases hcompile with hparse | ⟨plan, _, hmatcher⟩
  · exact hparse
  · rw [isBacktracking, hmatcher] at hregular
    cases hregular

/-- A text compiles to a pattern of which everything can be worked out. -/
theorem Pattern.exists_compile {property : Pattern → Prop}
    [DecidablePred property]
    (hcompile : (compile text letters).toOption.any (fun pattern => decide (property pattern)) =
      true) : ∃ pattern, compile text letters = .ok pattern ∧ property pattern := by
  cases hresult : compile text letters with
  | error =>
    rw [hresult] at hcompile
    cases hcompile
  | ok pattern =>
    rw [hresult] at hcompile
    exact ⟨pattern, rfl, of_decide_eq_true hcompile⟩

theorem Pattern.not_exists_compile
    (hcompile : (compile text letters).toOption.isNone = true) :
    ¬ ∃ pattern, compile text letters = .ok pattern := by
  rintro ⟨pattern, hresult⟩
  rw [hresult] at hcompile
  cases hcompile

/-- What the assembled text compiles to is made in the first world. -/
theorem exists_makes_of_compile
    (hcompile : Pattern.compile ((resolve given).assembled text) (resolve given).flags =
      .ok pattern) :
    ∃ shared, Makes text given shared ∧ { shared.pattern with metadata := none } = pattern := by
  have hreturned := World.returned_of_text .refl 0 text given
  obtain ⟨shared, hresult, howned, hpattern⟩ := hreturned.of_compiles hcompile
  exact ⟨shared, ⟨⟨{}, 0, .refl, hresult⟩, howned⟩, hpattern⟩

/-- A text that closes the group around it, as the notation reads it in which its pattern is
    written. -/
def Pattern.ClosesGroup (pattern : Pattern) (text : List Char) : Prop :=
  if pattern.isBacktracking then Backtrack.ClosesOuter { modes := pattern.flags.modes } text
  else Regular.ClosesOuter pattern.flags.modes text

/-- A text that is accepted on its own closes no group but those that it opened. -/
theorem Pattern.not_closesGroup (hcompile : compile text letters = .ok pattern) :
    ¬ pattern.ClosesGroup text.toList := by
  rcases matcher_cases hcompile with ⟨a, hparse, hmatcher⟩ | ⟨plan, hparse, hmatcher⟩
  · have hfree : pattern.isBacktracking = false := by rw [isBacktracking, hmatcher]
    rw [ClosesGroup, if_neg (ne_true_of_eq_false hfree)]
    exact Regular.not_closesOuter hparse
  · have hneeds : pattern.isBacktracking = true := by rw [isBacktracking, hmatcher]
    obtain ⟨reading, hread, _⟩ := Option.bind_eq_some_iff.mp hparse
    rw [ClosesGroup, if_pos hneeds]
    exact Backtrack.not_closesOuter hread

/-- A text from which a pattern is made is accepted on its own under the same flags, unless it closes
    the group that is put around it or, where backtracking is needed, begins with a counted
    repetition that would repeat flags. -/
theorem compile_of_makes (hmakes : Makes text given shared)
    (hplain : (given.getD empty).asksNegation = false) :
    (∃ alone, Pattern.compile text (resolve given).flags = .ok alone) ∨
      shared.pattern.ClosesGroup text.toList ∨
      (shared.pattern.isBacktracking = true ∧
        Backtrack.FlagsRepeated shared.pattern.flags text.toList) := by
  have hcompile := compileText_eq_ok_some_iff.mp hmakes.compiles
  have hflags := (Pattern.of_compile_eq_ok hcompile).2.1
  have hassembled := Effective.toList_assembled ((negated_resolve given).trans hplain) text
  rcases Pattern.matcher_cases hcompile with ⟨a, hparse, hmatcher⟩ | ⟨plan, hparse, hmatcher⟩
  · have hfree : shared.pattern.isBacktracking = false := by
      rw [Pattern.isBacktracking, hmatcher]
    rw [hassembled] at hparse
    rcases Regular.parse?_of_anchored hparse with ⟨b, halone⟩ | hcloses
    · exact .inl ((Pattern.exists_compile_iff hflags).mpr (.inl ⟨b, halone⟩))
    · exact .inr (.inl (by rwa [Pattern.ClosesGroup, if_neg (ne_true_of_eq_false hfree)]))
  · have hneeds : shared.pattern.isBacktracking = true := by rw [Pattern.isBacktracking, hmatcher]
    rw [hassembled] at hparse
    rcases Backtrack.Plan.parse?_of_anchored hparse with ⟨other, halone⟩ | hcloses | hrepeated
    · exact .inl ((Pattern.exists_compile_iff hflags).mpr (.inr ⟨other, halone⟩))
    · exact .inr (.inl (by rwa [Pattern.ClosesGroup, if_pos hneeds]))
    · exact .inr (.inr ⟨hneeds, hrepeated⟩)

/-- Alternatives of which one looks ahead. -/
theorem compile_of_makes_ahead :
    ∃ shared, Makes "(?=a)a|b" none shared ∧
      ((∃ alone, Pattern.compile "(?=a)a|b" (resolve none).flags = .ok alone) ∨
        shared.pattern.ClosesGroup "(?=a)a|b".toList ∨
        (shared.pattern.isBacktracking = true ∧
          Backtrack.FlagsRepeated shared.pattern.flags "(?=a)a|b".toList)) := by
  obtain ⟨shared, hmakes, _⟩ : ∃ shared, Makes "(?=a)a|b" none shared ∧
      shared.pattern.isBacktracking = true := exists_makes (by decide +kernel)
  exact ⟨shared, hmakes, compile_of_makes hmakes (by decide)⟩

/-- A text that closes the group around it and opens another one is accepted between anchors only,
    and each anchor belongs to one alternative. -/
theorem makes_of_closing :
    asksNegation empty = false ∧
      (∃ shared, Makes "a)|(?:b" none shared ∧ shared.pattern.isMatch "ab" = true) ∧
      ¬ ∃ alone, Pattern.compile "a)|(?:b" (resolve none).flags = .ok alone :=
  ⟨by decide, exists_makes (by decide +kernel), Pattern.not_exists_compile (by decide +kernel)⟩

/-- There is room around the text of a pattern for a group and anchors, inside the limits of the
    notation in which it is written. -/
def Pattern.WellWithin (pattern : Pattern) : Prop :=
  if pattern.isBacktracking then Backtrack.WellWithin pattern.flags pattern.source.toList
  else Regular.WellWithin (pattern.flags.inlineGroup.toList ++ pattern.source.toList)

instance (pattern : Pattern) : Decidable pattern.WellWithin :=
  inferInstanceAs (Decidable
    (if pattern.isBacktracking then Backtrack.WellWithin _ _ else Regular.WellWithin _))

/-- A text that is accepted on its own is made into a pattern under the same flags, if there is room
    for a group and anchors around it and it neither ends in a comment, which would pass over a
    parenthesis after it, nor needs backtracking and has alternatives that give names to groups and
    refer to groups by numbers. -/
theorem makes_of_compile (hcompile : Pattern.compile text (resolve given).flags = .ok alone)
    (hplain : (given.getD empty).asksNegation = false) (hwithin : alone.WellWithin)
    (hunmixed : alone.isBacktracking = true → Backtrack.Unmixed alone.flags text.toList)
    (hcomment : ¬ ∃ closed, Pattern.compile (text ++ ")") (resolve given).flags = .ok closed) :
    ∃ shared, Makes text given shared := by
  obtain ⟨hsource, hflags, _⟩ := Pattern.of_compile_eq_ok hcompile
  have hassembled := Effective.toList_assembled ((negated_resolve given).trans hplain) text
  have hclosed : (text ++ ")").toList = text.toList ++ [')'] := String.toList_append
  rw [Pattern.exists_compile_iff hflags, hclosed, not_or] at hcomment
  suffices hframed : ∃ pattern, Pattern.compile ((resolve given).assembled text)
      (resolve given).flags = .ok pattern by
    obtain ⟨pattern, hpattern⟩ := hframed
    obtain ⟨shared, hmakes, _⟩ := exists_makes_of_compile hpattern
    exact ⟨shared, hmakes⟩
  rw [Pattern.exists_compile_iff hflags, hassembled]
  rcases Pattern.matcher_cases hcompile with ⟨a, hparse, hmatcher⟩ | ⟨plan, hparse, hmatcher⟩
  · simp only [Pattern.WellWithin, Pattern.isBacktracking, hmatcher, hsource] at hwithin
    exact .inl (Regular.parse?_anchored hparse hwithin
      (Option.not_isSome_iff_eq_none.mp (mt Option.isSome_iff_exists.mp hcomment.1)) _ _)
  · have hneeds : alone.isBacktracking = true := by rw [Pattern.isBacktracking, hmatcher]
    rw [Pattern.WellWithin, if_pos hneeds, hsource] at hwithin
    exact .inr (Backtrack.Plan.parse?_anchored _ _ hparse hwithin (hunmixed hneeds)
      (Option.not_isSome_iff_eq_none.mp (mt Option.isSome_iff_exists.mp hcomment.2)))

/-- A reference to a group before a comment that ends with its line. -/
theorem makes_of_compile_comment :
    let given := some (ofList [("flags", .text "i")])
    ∃ alone, Pattern.compile "(?x)(a)\\1#c\n" (resolve given).flags = .ok alone ∧
      ∃ shared, Makes "(?x)(a)\\1#c\n" given shared := by
  intro given
  obtain ⟨alone, hcompile, _, hwithin, hunmixed⟩ :
      ∃ alone, Pattern.compile "(?x)(a)\\1#c\n" (resolve given).flags = .ok alone ∧
        alone.isBacktracking = true ∧ alone.WellWithin ∧
        Backtrack.Unmixed alone.flags "(?x)(a)\\1#c\n".toList :=
    Pattern.exists_compile (by decide +kernel)
  exact ⟨alone, hcompile, makes_of_compile hcompile (by decide) hwithin (fun _ => hunmixed)
    (Pattern.not_exists_compile (by decide +kernel))⟩

/-- A comment that does not end passes over the parenthesis that closes the group around it. -/
theorem not_makes_of_comment :
    let given := some (ofList [("flags", .text "")])
    (resolve given).flags = "" ∧ (given.getD empty).asksNegation = false ∧
      (∃ alone, Pattern.compile "(?x)a#c" "" = .ok alone ∧ alone.isMatch "a" = true) ∧
      ¬ ∃ shared, Makes "(?x)a#c" given shared := by
  intro given
  refine ⟨by decide, by decide, Pattern.exists_compile (by decide +kernel), ?_⟩
  rintro ⟨shared, hmakes⟩
  exact Pattern.not_exists_compile (by decide +kernel)
    ⟨_, compileText_eq_ok_some_iff.mp hmakes.compiles⟩

end Patternwork
