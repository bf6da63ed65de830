import Patternwork.Proofs.Settings.Fixpoint
import Patternwork.Proofs.Store.Outcome

namespace Patternwork

open Settings

/-- The options that can influence a compilation. -/
def Settings.influential : List String := Name.wrap :: (switches ++ texts)

theorem Settings.wraps_eq_of_bool?_eq {a b : Option Settings}
    (hwrap : (a.getD empty).bool? Name.wrap = (b.getD empty).bool? Name.wrap) :
    wraps a = wraps b := by
  have hread (given : Option Settings) : wraps given = !(given.getD empty).isFalse Name.wrap := by
    cases given <;> rfl
  rw [hread, hread, isFalse, isFalse, hwrap]

/-- Whether list elements are grouped is all that the text of a call depends on. -/
theorem Call.text?_eq_of_wraps {a b : Option Settings} (hwraps : wraps a = wraps b)
    (method : Method) (input : Input) :
    (⟨method, input, a⟩ : Call).text? = (⟨method, input, b⟩ : Call).text? := by
  cases input with
  | missing => cases method <;> rfl
  | text text => cases method <;> rfl
  | compiled shared => cases method <;> rfl
  | list items =>
    cases method with
    | compile => rw [text?, text?, hwraps]
    | make => rfl

namespace World

variable {world later : World} {text : String} {given : Option Settings}

/-- In any two worlds that operations lead to, calls for a text have the same outcome if their
    options agree on what counts, and calls for a list if they agree on `wrap` besides. So they do
    if their options differ in the order of the entries, and in entries that have no influence. -/
theorem outcome_of_agreement (hworld : Reaches {} world) (hlater : Reaches {} later)
    (cache other : Nat) :
    (∀ a b : Option Settings, (a.getD .empty).Agree (b.getD .empty) → ∀ text,
      SameOutcome (world.reply cache ⟨.make, .text text, a⟩)
        (later.reply other ⟨.make, .text text, b⟩)) ∧
    (∀ a b : Option Settings, (a.getD .empty).Agree (b.getD .empty) →
      (a.getD .empty).bool? Name.wrap = (b.getD .empty).bool? Name.wrap → ∀ items,
      SameOutcome (world.reply cache ⟨.compile, .list items, a⟩)
        (later.reply other ⟨.compile, .list items, b⟩)) ∧
    ∀ a b : Settings, (a.entries.filter (·.1 ∈ influential)).Perm
        (b.entries.filter (·.1 ∈ influential)) →
      ∀ method input, (⟨method, input, some a⟩ : Call).text?.isSome = true →
        SameOutcome (world.reply cache ⟨method, input, some a⟩)
          (later.reply other ⟨method, input, some b⟩) := by
  refine ⟨?_, ?_, ?_⟩
  · intro a b hagree text
    exact sameOutcome_of_agree hworld hlater cache other rfl rfl hagree
  · intro a b hagree hwrap items
    have htext := Call.text?_eq_of_wraps (wraps_eq_of_bool?_eq hwrap) .compile (.list items)
    exact sameOutcome_of_agree hworld hlater cache other rfl htext.symm hagree
  · intro a b hperm method input hasks
    have hget : ∀ name ∈ influential, a.get? name = b.get? name :=
      fun name hname => get?_eq_of_perm_filter hperm hname
    have hagree : a.Agree b :=
      agree_of_get?_eq fun name hname => hget name (List.mem_cons_of_mem _ hname)
    have hwraps : wraps (some a) = wraps (some b) := by
      apply wraps_eq_of_bool?_eq
      rw [Option.getD_some, Option.getD_some, bool?, bool?, hget _ (List.mem_cons_self ..)]
    have htext := Call.text?_eq_of_wraps hwraps method input
    obtain ⟨text, hsome⟩ := Option.isSome_iff_exists.mp hasks
    exact sameOutcome_of_agree hworld hlater cache other hsome (htext ▸ hsome) hagree

/-- Records of different lengths that agree, for a list with a compiled element. -/
theorem outcome_of_agreement_of_list :
    let a := Settings.ofList [("negate", .int 1), ("flags", .text "i"), ("cache", .bool false)]
    let b := Settings.ofList [("note", .float 0.5), ("flags", .text "i"), ("wrap", .text ""),
      ("strict", .int 0), ("negate", .text "no")]
    let items := [.text "a", .compiled .matchNothing]
    a.Agree b ∧ SameOutcome (reply {} 0 ⟨.compile, .list items, some a⟩)
      (reply {} 1 ⟨.compile, .list items, some b⟩) := by
  intro a b items
  have hagree : a.Agree b := ⟨by decide, by decide, by decide⟩
  have houtcome := (outcome_of_agreement .refl .refl 0 1).2.1 (some a) (some b) hagree (by decide)
  exact ⟨hagree, houtcome items⟩

theorem sameOutcome_resolve (hworld : Reaches {} world) (hlater : Reaches {} later)
    (cache other : Nat) (text : String) (given : Option Settings) :
    SameOutcome (world.reply cache ⟨.make, .text text, given⟩)
      (later.reply other ⟨.make, .text text, some (resolve given).settings⟩) := by
  have hfixed := resolve_resolve given
  refine (returned_of_text hworld cache text given).sameOutcome
    (returned_of_text hlater other text _) ?_ ?_ ?_
  · rw [hfixed]
  · rw [hfixed]
  · rw [hfixed]

/-- A stored pattern has the outcome of a call with the options that its note keeps. -/
theorem exists_note_sameOutcome (hworld : Reaches {} world) (hlater : Reaches {} later)
    {cache : Nat} {shared : Shared} (other : Nat)
    (hfound : (world.caches cache).find? (Key.derive text given) = some shared) :
    ∃ note, shared.pattern.metadata = some note ∧
      SameOutcome (.ok shared) (later.reply other ⟨.make, .text text, some note.settings⟩) := by
  have hvalid := (valid_of_reaches hworld valid_start).stores cache
  obtain ⟨same, options, pattern, horigin⟩ := hvalid.origin _ (Store.mem_of_find? hfound)
  obtain ⟨rfl, _⟩ := (Key.derive_eq_iff_alikeGiven _ _ _ _).mp horigin.derives
  have hkey : (⟨.make, .text same, options⟩ : Call).key? = some (Key.derive same given) :=
    Call.key?_eq_some_iff.mpr ⟨horigin.allows, same, rfl, horigin.derives⟩
  have hreply : world.reply cache ⟨.make, .text same, options⟩ = .ok shared :=
    congrArg Answer.result (Call.answer_of_found hkey hfound world.supply)
  refine ⟨_, horigin.metadata_eq, ?_⟩
  rw [← hreply]
  exact sameOutcome_resolve hworld hlater cache other same options

/-- What options resolve to resolves to itself. So a pattern can be made again from the record that
    its options were resolved to, which is the record that its note keeps. -/
theorem rebuilt_from_effective (given : Option Settings) :
    resolve (some (resolve given).settings) = resolve given ∧
    ∀ world later, Reaches {} world → Reaches {} later → ∀ cache other text,
      SameOutcome (world.reply cache ⟨.make, .text text, given⟩)
        (later.reply other ⟨.make, .text text, some (resolve given).settings⟩) ∧
      ∀ shared, (world.caches cache).find? (Key.derive text given) = some shared →
        ∃ note, shared.pattern.metadata = some note ∧
          SameOutcome (.ok shared)
            (later.reply other ⟨.make, .text text, some note.settings⟩) := by
  refine ⟨resolve_resolve given, ?_⟩
  intro world later hworld hlater cache other text
  refine ⟨sameOutcome_resolve hworld hlater cache other text given, ?_⟩
  intro shared hfound
  exact exists_note_sameOutcome hworld hlater other hfound

/-- Containment of an inexact negation: three options are implied, one of them in the place of
    another value. -/
theorem rebuilt_from_effective_of_containment :
    let record := Settings.ofList [("strict", .text "x"), ("contains", .bool true),
      ("negate", .int 1)]
    let world := (perform {} (.call 0 ⟨.make, .text "a", some record⟩)).2
    (resolve (some record)).settings ≠ record ∧
      ∃ shared note, (world.caches 0).find? (Key.derive "a" (some record)) = some shared ∧
        shared.pattern.metadata = some note ∧
        SameOutcome (.ok shared) (reply {} 0 ⟨.make, .text "a", some note.settings⟩) := by
  intro record world
  have hreach : Reaches {} world :=
    .single (.perform (.call 0 _) (by simp [Operation.patterns, Input.patterns]))
  have hstored : ((world.caches 0).find? (Key.derive "a" (some record))).isSome = true := by
    decide +kernel
  obtain ⟨shared, hfound⟩ := Option.isSome_iff_exists.mp hstored
  have hrebuilt := (rebuilt_from_effective (some record)).2 world {} hreach .refl 0 0 "a"
  obtain ⟨note, hnote, houtcome⟩ := hrebuilt.2 shared hfound
  exact ⟨by decide, shared, note, hfound, hnote, houtcome⟩

end World

end Patternwork
