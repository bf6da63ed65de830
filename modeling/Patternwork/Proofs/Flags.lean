import Mathlib.Tactic.Tauto
import Patternwork.Flags

namespace Patternwork

namespace Flag

theorem ofLetter?_eq_some_iff {c : Char} {flag : Flag} :
    ofLetter? c = some flag ↔ flag.letter = c := by
  constructor
  · intro hfound
    simpa using List.find?_some hfound
  · rintro rfl
    cases flag <;> rfl

theorem letter_injective {a b : Flag} (hletter : a.letter = b.letter) : a = b := by
  cases a <;> cases b <;> first | rfl | exact absurd hletter (by decide)

end Flag

namespace Flags

variable {flags result : Flags} {flag other : Flag}

theorem inlineGroup_empty : ({} : Flags).inlineGroup = "" := rfl

theorem has_insert : (flags.insert flag).has other = (decide (other = flag) || flags.has other) := by
  cases flag <;> cases other <;> simp [insert, has]

theorem has_of_read {letters : List Char} (hread : flags.read letters = some result)
    (flag : Flag) : result.has flag = true ↔ flags.has flag = true ∨ flag.letter ∈ letters := by
  induction letters generalizing flags with
  | nil =>
    obtain rfl := Option.some.inj hread
    simp
  | cons c rest ih =>
    obtain ⟨found, hfound, hrest⟩ := Option.bind_eq_some_iff.mp hread
    split at hrest
    · cases hrest
    · obtain rfl := Flag.ofLetter?_eq_some_iff.mp hfound
      have hletter : flag.letter = found.letter ↔ flag = found :=
        ⟨Flag.letter_injective, congrArg Flag.letter⟩
      rw [ih hrest, has_insert, List.mem_cons, hletter, Bool.or_eq_true, decide_eq_true_eq]
      tauto

/-- A set that is read from letters has the flags of these letters. -/
theorem has_iff_of_parse? {letters : String} (hparse : parse? letters = some flags)
    (flag : Flag) : flags.has flag = true ↔ flag.letter ∈ letters.toList := by
  obtain ⟨result, hread, hparse⟩ := Option.bind_eq_some_iff.mp hparse
  split at hparse
  · cases hparse
  · obtain rfl := Option.some.inj hparse
    have hnone : ({} : Flags).has flag = false := by cases flag <;> rfl
    simpa [hnone] using has_of_read hread flag

end Flags

end Patternwork
