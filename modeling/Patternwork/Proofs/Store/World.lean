import Mathlib.Logic.Function.Basic
import Mathlib.Logic.Relation
import Patternwork.Proofs.Store.Effect

namespace Patternwork

/-- Caches, and the pattern objects that were returned so far. -/
structure World where
  caches : Nat → Store := fun _ => {}
  supply : Supply := {}
  objects : List Shared := [.matchNothing]

/-- What can be done in a world. -/
inductive Operation where
  | call (cache : Nat) (call : Call)
  | new (source letters : String)
  | withFlags (source : String) (flags : Flags)
  | matchNothing

def Operation.patterns : Operation → List Shared
  | .call _ made => made.input.patterns
  | .new _ _ | .withFlags _ _ | .matchNothing => []

namespace World

/-- Makes an object of a pattern that was compiled apart from all caches. -/
def own (world : World) : Except Rejection Pattern → Option Shared × World
  | .error _ => (none, world)
  | .ok pattern =>
    let (shared, supply) := world.supply.share pattern
    (some shared, { world with supply, objects := world.objects ++ [shared] })

/-- The pattern that an operation returns, and the world after it. -/
def perform (world : World) : Operation → Option Shared × World
  | .call cache call =>
    let answer := call.answer (world.caches cache) world.supply
    let returned := answer.result.toOption
    (returned,
      { caches := Function.update world.caches cache answer.store
        supply := answer.supply
        objects := world.objects ++ returned.toList })
  | .new source letters => world.own (Pattern.compile source letters)
  | .withFlags source flags => world.own (Pattern.ofFlags source flags)
  | .matchNothing => (some .matchNothing, world)

/-- An operation is handed only patterns that exist. -/
inductive Step (world : World) : World → Prop
  | perform (operation : Operation)
      (hexist : ∀ shared ∈ operation.patterns, shared ∈ world.objects) :
      Step world (world.perform operation).2

abbrev Reaches : World → World → Prop := Relation.ReflTransGen Step

/-- The ways in which one operation changes a world. -/
inductive Change (world : World) : World → Prop
  | kept {objects : List Shared}
      (hobjects : ∀ shared, shared ∈ objects ↔ shared ∈ world.objects) :
      Change world { world with objects }
  | made {pattern : Pattern} (hplain : pattern.metadata = none) :
      Change world
        { world with
          supply := ⟨world.supply.next + 1⟩
          objects := world.objects ++ [⟨world.supply.next, pattern⟩] }
  | stored {cache : Nat} {key text : String} {shared : Shared} {given : Option Settings}
      {pattern : Pattern} (habsent : (world.caches cache).find? key = none)
      (horigin : Origin key shared text given pattern)
      (hnext : shared.identity = world.supply.next) :
      Change world
        { caches := Function.update world.caches cache ((world.caches cache).insert key shared)
          supply := ⟨world.supply.next + 1⟩
          objects := world.objects ++ [shared] }

/-- Every annotated pattern stands in one cache under the key of its note, and every entry
    is an annotated pattern that exists. -/
structure Valid (world : World) : Prop where
  stores : ∀ cache, (world.caches cache).Valid
  next_pos : 0 < world.supply.next
  sentinel : .matchNothing ∈ world.objects
  exist : ∀ cache, ∀ entry ∈ (world.caches cache).entries, entry.2 ∈ world.objects
  held : ∀ shared ∈ world.objects, ∀ metadata, shared.pattern.metadata = some metadata →
    ∃ cache, (metadata.key, shared) ∈ (world.caches cache).entries
  identity_lt : ∀ shared ∈ world.objects, shared.identity < world.supply.next
  identified : ∀ a ∈ world.objects, ∀ b ∈ world.objects, a.identity = b.identity → a = b
  home : ∀ cache other, ∀ entry ∈ (world.caches cache).entries,
    ∀ more ∈ (world.caches other).entries, entry.2 = more.2 → cache = other

theorem valid_start : Valid {} := by
  constructor
  case stores => exact fun _ => .empty
  case next_pos => decide
  case sentinel => exact List.mem_singleton.mpr rfl
  case exist => simp
  case held =>
    intro shared hshared metadata hmetadata
    rw [List.mem_singleton.mp hshared] at hmetadata
    cases hmetadata
  case identity_lt =>
    intro shared hshared
    rw [List.mem_singleton.mp hshared]
    decide
  case identified =>
    intro a ha b hb _
    rw [List.mem_singleton.mp ha, List.mem_singleton.mp hb]
  case home => simp

/-- An entry of a cache after one was added is the added one, or was there before. -/
private theorem mem_entries_insert {caches : Nat → Store} {cache other : Nat} {key : String}
    {shared : Shared} {entry : String × Shared} :
    entry ∈ (Function.update caches cache ((caches cache).insert key shared) other).entries ↔
      entry ∈ (caches other).entries ∨ other = cache ∧ entry = (key, shared) := by
  by_cases hother : other = cache
  · subst hother
    simp [Store.insert]
  · simp [hother]

theorem Change.objects_subset {world after : World} (hchange : Change world after) :
    ∀ shared ∈ world.objects, shared ∈ after.objects := by
  intro shared hshared
  cases hchange with
  | kept hobjects => exact (hobjects shared).mpr hshared
  | made => exact List.mem_append_left _ hshared
  | stored => exact List.mem_append_left _ hshared

private theorem Valid.kept {world : World} (hvalid : world.Valid) {objects : List Shared}
    (hobjects : ∀ shared, shared ∈ objects ↔ shared ∈ world.objects) :
    Valid { world with objects } := by
  constructor
  case stores => exact hvalid.stores
  case next_pos => exact hvalid.next_pos
  case sentinel => exact (hobjects _).mpr hvalid.sentinel
  case exist =>
    intro cache entry hentry
    exact (hobjects _).mpr (hvalid.exist cache entry hentry)
  case held =>
    intro shared hshared
    exact hvalid.held shared ((hobjects _).mp hshared)
  case identity_lt =>
    intro shared hshared
    exact hvalid.identity_lt shared ((hobjects _).mp hshared)
  case identified =>
    intro a ha b hb
    exact hvalid.identified a ((hobjects _).mp ha) b ((hobjects _).mp hb)
  case home => exact hvalid.home

/-- An object with the next identity is no object that exists. -/
private theorem Valid.identified_append {world : World} (hvalid : world.Valid)
    {fresh : Shared} (hnext : fresh.identity = world.supply.next) :
    ∀ a ∈ world.objects ++ [fresh], ∀ b ∈ world.objects ++ [fresh],
      a.identity = b.identity → a = b := by
  intro a ha b hb hidentity
  rcases List.mem_append.mp ha with ha | ha <;> rcases List.mem_append.mp hb with hb | hb
  · exact hvalid.identified a ha b hb hidentity
  · have hlt := hvalid.identity_lt a ha
    rw [hidentity, List.mem_singleton.mp hb, hnext] at hlt
    exact absurd hlt (Nat.lt_irrefl _)
  · have hlt := hvalid.identity_lt b hb
    rw [← hidentity, List.mem_singleton.mp ha, hnext] at hlt
    exact absurd hlt (Nat.lt_irrefl _)
  · rw [List.mem_singleton.mp ha, List.mem_singleton.mp hb]

private theorem Valid.identity_lt_append {world : World} (hvalid : world.Valid)
    {fresh : Shared} (hnext : fresh.identity = world.supply.next) :
    ∀ shared ∈ world.objects ++ [fresh], shared.identity < world.supply.next + 1 := by
  intro shared hshared
  rcases List.mem_append.mp hshared with hshared | hshared
  · have hlt := hvalid.identity_lt shared hshared
    omega
  · rw [List.mem_singleton.mp hshared, hnext]
    omega

/-- A pattern without a note may be made apart from all caches. -/
private theorem Valid.made {world : World} (hvalid : world.Valid) {pattern : Pattern}
    (hplain : pattern.metadata = none) :
    Valid
      { world with
        supply := ⟨world.supply.next + 1⟩
        objects := world.objects ++ [⟨world.supply.next, pattern⟩] } := by
  constructor
  case stores => exact hvalid.stores
  case next_pos => exact Nat.succ_pos _
  case sentinel => exact List.mem_append_left _ hvalid.sentinel
  case exist =>
    intro cache entry hentry
    exact List.mem_append_left _ (hvalid.exist cache entry hentry)
  case held =>
    intro shared hshared metadata hmetadata
    rcases List.mem_append.mp hshared with hshared | hshared
    · exact hvalid.held shared hshared metadata hmetadata
    · rw [List.mem_singleton.mp hshared, hplain] at hmetadata
      cases hmetadata
  case identity_lt => exact hvalid.identity_lt_append rfl
  case identified => exact hvalid.identified_append rfl
  case home => exact hvalid.home

/-- A new pattern may be added to one cache under the key of its note. -/
private theorem Valid.stored {world : World} (hvalid : world.Valid) {cache : Nat}
    {key text : String} {shared : Shared} {given : Option Settings} {pattern : Pattern}
    (habsent : (world.caches cache).find? key = none)
    (horigin : Origin key shared text given pattern)
    (hnext : shared.identity = world.supply.next) :
    Valid
      { caches := Function.update world.caches cache ((world.caches cache).insert key shared)
        supply := ⟨world.supply.next + 1⟩
        objects := world.objects ++ [shared] } := by
  have hfresh : shared ∉ world.objects := by
    intro hshared
    have hlt := hvalid.identity_lt shared hshared
    omega
  constructor
  case stores =>
    intro other
    dsimp only
    by_cases hother : other = cache
    · subst hother
      rw [Function.update_self]
      exact (hvalid.stores other).insert habsent horigin
    · rw [Function.update_of_ne hother]
      exact hvalid.stores other
  case next_pos => exact Nat.succ_pos _
  case sentinel => exact List.mem_append_left _ hvalid.sentinel
  case exist =>
    intro other entry hentry
    rcases mem_entries_insert.mp hentry with hentry | ⟨_, rfl⟩
    · exact List.mem_append_left _ (hvalid.exist other entry hentry)
    · exact List.mem_append_right _ (List.mem_singleton.mpr rfl)
  case held =>
    intro object hobject metadata hmetadata
    rcases List.mem_append.mp hobject with hobject | hobject
    · obtain ⟨other, hentry⟩ := hvalid.held object hobject metadata hmetadata
      exact ⟨other, mem_entries_insert.mpr (.inl hentry)⟩
    · obtain rfl := List.mem_singleton.mp hobject
      rw [horigin.metadata_eq] at hmetadata
      obtain rfl := Option.some.inj hmetadata
      exact ⟨cache, mem_entries_insert.mpr (.inr ⟨rfl, rfl⟩)⟩
  case identity_lt => exact hvalid.identity_lt_append hnext
  case identified => exact hvalid.identified_append hnext
  case home =>
    intro first second entry hentry more hmore heq
    -- `shared` is new, so no entry that was there before holds it.
    have hold (cache : Nat) {held : String × Shared}
        (hheld : held ∈ (world.caches cache).entries) : held.2 ≠ shared :=
      fun h => hfresh (h ▸ hvalid.exist cache held hheld)
    rcases mem_entries_insert.mp hentry with hbefore | ⟨hfirst, rfl⟩ <;>
      rcases mem_entries_insert.mp hmore with hthere | ⟨hsecond, rfl⟩
    · exact hvalid.home first second entry hbefore more hthere heq
    · exact absurd heq (hold first hbefore)
    · exact absurd heq.symm (hold second hthere)
    · rw [hfirst, hsecond]

theorem Change.valid {world after : World} (hchange : Change world after)
    (hvalid : world.Valid) : after.Valid := by
  cases hchange with
  | kept hobjects => exact hvalid.kept hobjects
  | made hplain => exact hvalid.made hplain
  | stored habsent horigin hnext => exact hvalid.stored habsent horigin hnext

private theorem change_own {world : World} {compiled : Except Rejection Pattern}
    (hplain : ∀ pattern, compiled = .ok pattern → pattern.metadata = none) :
    Change world (world.own compiled).2 := by
  cases compiled with
  | error cause => exact .kept fun _ => Iff.rfl
  | ok pattern => exact .made (hplain pattern rfl)

/-- An operation that is handed existing patterns only is one of the changes. -/
theorem Valid.change_perform {world : World} (hvalid : world.Valid) {operation : Operation}
    (hexist : ∀ shared ∈ operation.patterns, shared ∈ world.objects) :
    Change world (world.perform operation).2 := by
  cases operation with
  | call cache call =>
    have hanswer := call.answer_of (world.caches cache) hvalid.next_pos
    dsimp only [perform]
    generalize call.answer (world.caches cache) world.supply = answer at hanswer
    cases hanswer with
    | refused =>
      rw [Function.update_eq_self]
      exact .kept fun _ => by simp [Except.toOption]
    | @served shared hserved =>
      have hshared : shared ∈ world.objects := by
        rcases hserved with rfl | hinput | ⟨key, hentry⟩
        · exact hvalid.sentinel
        · exact hexist shared hinput
        · exact hvalid.exist cache _ hentry
      rw [Function.update_eq_self]
      refine .kept fun other => ?_
      constructor
      · intro hother
        rcases List.mem_append.mp hother with hother | hother
        · exact hother
        · rw [List.mem_singleton.mp hother]
          exact hshared
      · exact List.mem_append_left _
    | made hplain =>
      rw [Function.update_eq_self]
      exact .made hplain
    | stored habsent horigin hnext => exact .stored habsent horigin hnext
  | new source letters =>
    exact change_own fun _ hcompile => (Pattern.of_compile_eq_ok hcompile).2.2
  | withFlags source flags =>
    exact change_own fun _ hcompile => (Pattern.of_ofFlags_eq_ok hcompile).2.2
  | matchNothing => exact .kept fun _ => Iff.rfl

theorem Step.change {world after : World} (hstep : Step world after)
    (hvalid : world.Valid) : Change world after := by
  obtain ⟨operation, hexist⟩ := hstep
  exact hvalid.change_perform hexist

/-- The worlds that operations lead to are valid. -/
theorem valid_of_reaches {start world : World} (hreach : Reaches start world)
    (hstart : start.Valid) : world.Valid := by
  induction hreach with
  | refl => exact hstart
  | tail _ hstep ih => exact (hstep.change ih).valid ih

theorem objects_subset_of_reaches {start world : World} (hreach : Reaches start world)
    (hstart : start.Valid) : ∀ shared ∈ start.objects, shared ∈ world.objects := by
  induction hreach with
  | refl => exact fun _ hshared => hshared
  | tail hbefore hstep ih =>
    intro shared hshared
    exact (hstep.change (valid_of_reaches hbefore hstart)).objects_subset shared
      (ih shared hshared)

end World

end Patternwork
