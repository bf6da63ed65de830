import Patternwork.Proofs.Store.Growth
import Patternwork.Proofs.Store.World

namespace Patternwork

structure Metadata.Alike (a b : Metadata) : Prop where
  stored : a.stored = b.stored
  pattern : a.pattern = b.pattern
  settings : a.settings.Alike b.settings
  key : a.key = b.key

/-- Patterns that answer every question alike. -/
structure Pattern.Alike (a b : Pattern) : Prop where
  source : a.source = b.source
  flags : a.flags = b.flags
  engine : a.isBacktracking = b.isBacktracking
  outcome : ∀ text, a.outcome text = b.outcome text
  metadata : Option.Rel Metadata.Alike a.metadata b.metadata

/-- Results that a caller cannot tell apart: errors with equal fields, or alike patterns of
    which both or neither are the pattern that matches nothing. -/
def SameResult : Except CompileError Shared → Except CompileError Shared → Prop
  | .error failure, .error other => failure = other
  | .ok a, .ok b =>
    (a.identity = Shared.matchNothing.identity ↔ b.identity = Shared.matchNothing.identity) ∧
      a.pattern.Alike b.pattern
  | .error _, .ok _ | .ok _, .error _ => False

section

variable {a b c : Pattern} {one other third : Except CompileError Shared}

theorem Metadata.Alike.refl (a : Metadata) : a.Alike a := ⟨rfl, rfl, .refl _, rfl⟩

theorem Metadata.Alike.symm {a b : Metadata} (h : a.Alike b) : b.Alike a :=
  ⟨h.stored.symm, h.pattern.symm, h.settings.symm, h.key.symm⟩

theorem Metadata.Alike.trans {a b c : Metadata} (hab : a.Alike b) (hbc : b.Alike c) :
    a.Alike c :=
  ⟨hab.stored.trans hbc.stored, hab.pattern.trans hbc.pattern, hab.settings.trans hbc.settings,
    hab.key.trans hbc.key⟩

theorem Pattern.Alike.refl (a : Pattern) : a.Alike a := by
  refine ⟨rfl, rfl, rfl, fun _ => rfl, ?_⟩
  cases a.metadata with
  | none => exact .none
  | some metadata => exact .some (.refl metadata)

theorem Pattern.Alike.symm (h : a.Alike b) : b.Alike a := by
  refine ⟨h.source.symm, h.flags.symm, h.engine.symm, fun text => (h.outcome text).symm, ?_⟩
  have hnotes := h.metadata
  generalize a.metadata = note, b.metadata = other at hnotes ⊢
  cases hnotes with
  | none => exact .none
  | some hnote => exact .some hnote.symm

theorem Pattern.Alike.trans (hab : a.Alike b) (hbc : b.Alike c) : a.Alike c := by
  refine ⟨hab.source.trans hbc.source, hab.flags.trans hbc.flags, hab.engine.trans hbc.engine,
    fun text => (hab.outcome text).trans (hbc.outcome text), ?_⟩
  have hfirst := hab.metadata
  have hnext := hbc.metadata
  generalize a.metadata = first, b.metadata = second, c.metadata = last at hfirst hnext ⊢
  cases hfirst with
  | none => exact hnext
  | some hnote =>
    cases hnext with
    | some hmore => exact .some (hnote.trans hmore)

theorem SameResult.refl (result : Except CompileError Shared) : SameResult result result := by
  cases result with
  | error failure => rfl
  | ok shared => exact ⟨Iff.rfl, .refl _⟩

theorem SameResult.symm (h : SameResult one other) : SameResult other one := by
  cases one with
  | error failure =>
    cases other with
    | error same => exact Eq.symm h
    | ok _ => exact h.elim
  | ok a =>
    cases other with
    | error _ => exact h.elim
    | ok b => exact ⟨h.1.symm, h.2.symm⟩

theorem SameResult.trans (h : SameResult one other) (hnext : SameResult other third) :
    SameResult one third := by
  cases other with
  | error failure =>
    cases one with
    | error _ => exact (show _ = failure from h) ▸ hnext
    | ok _ => exact h.elim
  | ok b =>
    cases one with
    | error _ => exact h.elim
    | ok a =>
      cases third with
      | error _ => exact hnext.elim
      | ok c => exact ⟨h.1.trans hnext.1, h.2.trans hnext.2⟩

end

theorem Settings.AlikeGiven.annotate {a b : Option Settings} (halike : AlikeGiven a b)
    (pattern : Pattern) (key : String) :
    (Store.annotate pattern key (Settings.resolve a).settings).Alike
      (Store.annotate pattern key (Settings.resolve b).settings) :=
  ⟨rfl, rfl, rfl, fun _ => rfl, .some ⟨rfl, rfl, halike.resolve, rfl⟩⟩

/-- What stands under the key of a text and options is alike to what they compile to. -/
theorem Store.Valid.alike_of_found {store : Store} (hvalid : store.Valid) {text : String}
    {given : Option Settings} {shared : Shared}
    (hfound : store.find? (Key.derive text given) = some shared) :
    shared.identity ≠ 0 ∧ ∃ pattern, compileText text given = .ok (some pattern) ∧
      shared.pattern.Alike (annotate pattern (Key.derive text given)
        (Settings.resolve given).settings) := by
  obtain ⟨other, options, pattern, horigin⟩ := hvalid.origin _ (mem_of_find? hfound)
  obtain ⟨_, halike⟩ := (Key.derive_eq_iff_alikeGiven _ _ _ _).mp horigin.derives
  refine ⟨horigin.owned, pattern, horigin.compileText_eq rfl, ?_⟩
  rw [horigin.annotated]
  exact halike.annotate pattern _

namespace Call

/-- An empty store has a text compiled and annotated. -/
theorem result_of_empty {call : Call} {key text : String} {pattern : Pattern}
    (hkey : call.key? = some key) (htext : call.text? = some text)
    (hcompile : compileText text call.given = .ok (some pattern)) (supply : Supply) :
    (call.answer {} supply).result =
      .ok ⟨supply.next, Store.annotate pattern key (Settings.resolve call.given).settings⟩ := by
  obtain ⟨hallows, same, hsame, rfl⟩ := key?_eq_some_iff.mp hkey
  obtain rfl := Option.some.inj (hsame.symm.trans htext)
  have hadds : call.Adds {} same pattern :=
    ⟨htext, (Settings.allowsStoring_iff call.given).mp hallows, by simp,
      compileText_eq_ok_some_iff.mp hcompile⟩
  exact congrArg Answer.result (hadds.answer_eq supply)

/-- A call on a valid store gets what it would get from an empty one. -/
theorem sameResult_of_valid {call : Call} {text : String} (htext : call.text? = some text)
    {store : Store} (hvalid : store.Valid) {supply : Supply} (hsupply : 0 < supply.next) :
    SameResult (call.answer store supply).result (call.answer {} supply).result := by
  by_cases hfresh : ∀ key, call.key? = some key → store.find? key = none
  · rw [result_of_absent htext hfresh]
    exact .refl _
  · push Not at hfresh
    obtain ⟨key, hkey, hfind⟩ := hfresh
    obtain ⟨shared, hfound⟩ := Option.ne_none_iff_exists'.mp hfind
    obtain ⟨_, same, hsame, rfl⟩ := key?_eq_some_iff.mp hkey
    obtain rfl := Option.some.inj (hsame.symm.trans htext)
    obtain ⟨howned, pattern, hcompile, halike⟩ := hvalid.alike_of_found hfound
    rw [answer_of_found hkey hfound, result_of_empty hkey htext hcompile]
    refine ⟨?_, halike⟩
    constructor
    · intro hsentinel
      exact absurd hsentinel howned
    · intro hsentinel
      exact absurd hsentinel (Nat.ne_of_gt hsupply)

end Call

namespace World

/-- In every world that operations lead to, a call for a text gets from a cache what it
    would get from a new one, and a pattern that a cache serves is one that the call's own
    text and options compile to. -/
theorem cache_transparent {world : World} (hreach : Reaches {} world) (cache : Nat)
    {call : Call} {text : String} (htext : call.text? = some text) :
    SameResult (call.answer (world.caches cache) world.supply).result
        (call.answer {} world.supply).result ∧
      ∀ shared, (world.caches cache).find? (Key.derive text call.given) = some shared →
        ∃ pattern, compileText text call.given = .ok (some pattern) ∧
          shared.pattern.Alike (Store.annotate pattern (Key.derive text call.given)
            (Settings.resolve call.given).settings) := by
  have hvalid := valid_of_reaches hreach valid_start
  refine ⟨Call.sameResult_of_valid htext (hvalid.stores cache) hvalid.next_pos, ?_⟩
  intro shared hfound
  obtain ⟨_, hpattern⟩ := (hvalid.stores cache).alike_of_found hfound
  exact hpattern

/-- A pattern stored for a positive zero, and a call with a negative one. -/
theorem cache_transparent_negative_zero :
    let asked (x : Float) : Call := ⟨.compile, .text "a", some (.ofList [("x", .float x)])⟩
    let world := (perform {} (.call 0 (asked 0.0))).2
    ((world.caches 0).find? (Key.derive "a" (asked (-0.0)).given)).isSome ∧
      SameResult ((asked (-0.0)).answer (world.caches 0) world.supply).result
        ((asked (-0.0)).answer {} world.supply).result := by
  intro asked world
  have hreach : Reaches {} world :=
    .single (.perform (.call 0 _) (by simp [Operation.patterns, asked, Input.patterns]))
  exact ⟨by decide +kernel, (cache_transparent hreach 0 rfl).1⟩

end World

end Patternwork
