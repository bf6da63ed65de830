import Patternwork.Proofs.Store.World

namespace Patternwork

/-- The operation makes its pattern apart from all caches, or makes none. -/
def Operation.Apart : Operation → Prop
  | .call _ asked => (∃ text, asked.text? = some text) ∧
      Settings.allowsStoring asked.given = false
  | .new _ _ | .withFlags _ _ | .matchNothing => True

namespace World

/-- An operation before the present world made `shared` apart from all caches. -/
def MadeApart (world : World) (shared : Shared) : Prop :=
  ∃ before operation, Reaches {} before ∧
    (∀ handed ∈ operation.patterns, handed ∈ before.objects) ∧ operation.Apart ∧
    (before.perform operation).1 = some shared ∧ Reaches (before.perform operation).2 world

private theorem metadata_own {world : World} {compiled : Except Rejection Pattern}
    (hplain : ∀ pattern, compiled = .ok pattern → pattern.metadata = none) {shared : Shared}
    (hreturned : (world.own compiled).1 = some shared) : shared.pattern.metadata = none := by
  cases compiled with
  | error cause => cases hreturned
  | ok pattern =>
    obtain rfl := Option.some.inj hreturned
    exact hplain pattern rfl

/-- What is made apart from all caches carries no note. -/
theorem metadata_of_apart {world : World} {operation : Operation} (hapart : operation.Apart)
    {shared : Shared} (hreturned : (world.perform operation).1 = some shared) :
    shared.pattern.metadata = none := by
  cases operation with
  | call cache call =>
    obtain ⟨⟨text, htext⟩, hrefuses⟩ := hapart
    have hmade := Call.apart_of_text htext hrefuses (world.caches cache) world.supply
    change (call.answer (world.caches cache) world.supply).result.toOption = some shared
      at hreturned
    generalize call.answer (world.caches cache) world.supply = answer at hmade hreturned
    cases hmade with
    | failed => cases hreturned
    | suppressed =>
      obtain rfl := Option.some.inj hreturned
      rfl
    | made hcompile =>
      obtain rfl := Option.some.inj hreturned
      obtain ⟨_, _, hplain⟩ := of_compileText_eq_ok hcompile
      exact hplain
  | new source letters =>
    exact metadata_own (fun _ hcompile => (Pattern.of_compile_eq_ok hcompile).2.2) hreturned
  | withFlags source flags =>
    exact metadata_own (fun _ hcompile => (Pattern.of_ofFlags_eq_ok hcompile).2.2) hreturned
  | matchNothing =>
    obtain rfl := Option.some.inj hreturned
    rfl

private theorem returned_mem_own {world : World} {compiled : Except Rejection Pattern}
    {shared : Shared} (hreturned : (world.own compiled).1 = some shared) :
    shared ∈ (world.own compiled).2.objects := by
  cases compiled with
  | error cause => cases hreturned
  | ok pattern =>
    obtain rfl := Option.some.inj hreturned
    exact List.mem_append_right _ (List.mem_singleton.mpr rfl)

theorem Valid.returned_mem {world : World} (hvalid : world.Valid) {operation : Operation}
    {shared : Shared} (hreturned : (world.perform operation).1 = some shared) :
    shared ∈ (world.perform operation).2.objects := by
  cases operation with
  | call cache call =>
    change (call.answer (world.caches cache) world.supply).result.toOption = some shared
      at hreturned
    refine List.mem_append_right _ ?_
    rw [hreturned]
    exact List.mem_singleton.mpr rfl
  | new source letters => exact returned_mem_own hreturned
  | withFlags source flags => exact returned_mem_own hreturned
  | matchNothing =>
    obtain rfl := Option.some.inj hreturned
    exact hvalid.sentinel

theorem MadeApart.mem_objects {world : World} {shared : Shared}
    (hapart : world.MadeApart shared) : shared ∈ world.objects := by
  obtain ⟨before, operation, hreach, hexist, _, hreturned, hlater⟩ := hapart
  have hbefore := valid_of_reaches hreach valid_start
  have hafter := (hbefore.change_perform hexist).valid hbefore
  exact objects_subset_of_reaches hlater hafter shared (hbefore.returned_mem hreturned)

theorem MadeApart.metadata_eq {world : World} {shared : Shared}
    (hapart : world.MadeApart shared) : shared.pattern.metadata = none := by
  obtain ⟨_, _, _, _, hoperation, hreturned, _⟩ := hapart
  exact metadata_of_apart hoperation hreturned

namespace Valid

variable {world : World}

/-- Objects with one identity stand in one place at most. -/
theorem place_eq (hvalid : world.Valid) {cache other : Nat} {key more : String}
    {shared held : Shared} (hfound : (world.caches cache).find? key = some shared)
    (hagain : (world.caches other).find? more = some held)
    (hidentity : shared.identity = held.identity) : cache = other ∧ key = more := by
  have hentry := Store.mem_of_find? hfound
  have hsecond := Store.mem_of_find? hagain
  obtain rfl : shared = held := hvalid.identified _ (hvalid.exist _ _ hentry) _
    (hvalid.exist _ _ hsecond) hidentity
  obtain ⟨_, _, _, horigin⟩ := (hvalid.stores cache).origin _ hentry
  obtain ⟨_, _, _, hother⟩ := (hvalid.stores other).origin _ hsecond
  have hmetadata := horigin.metadata_eq.symm.trans hother.metadata_eq
  refine ⟨hvalid.home _ _ _ hentry _ hsecond rfl, ?_⟩
  exact congrArg Metadata.key (Option.some.inj hmetadata)

/-- A pattern without a note stands in no cache. -/
theorem identity_ne_of_unannotated (hvalid : world.Valid) {shared : Shared}
    (hshared : shared ∈ world.objects) (hplain : shared.pattern.metadata = none)
    {cache : Nat} {key : String} {held : Shared}
    (hfound : (world.caches cache).find? key = some held) :
    held.identity ≠ shared.identity := by
  intro hidentity
  have hentry := Store.mem_of_find? hfound
  obtain rfl := hvalid.identified _ (hvalid.exist _ _ hentry) _ hshared hidentity
  obtain ⟨_, _, _, horigin⟩ := (hvalid.stores cache).origin _ hentry
  rw [horigin.metadata_eq] at hplain
  cases hplain

/-- A note belongs to the entry under its key. -/
theorem metadata_eq_some_iff (hvalid : world.Valid) {shared : Shared}
    (hshared : shared ∈ world.objects) :
    shared.pattern.metadata.isSome = true ↔
      ∃ cache metadata, shared.pattern.metadata = some metadata ∧
        (world.caches cache).find? metadata.key = some shared := by
  constructor
  · intro hsome
    obtain ⟨metadata, hmetadata⟩ := Option.isSome_iff_exists.mp hsome
    obtain ⟨cache, hentry⟩ := hvalid.held shared hshared metadata hmetadata
    exact ⟨cache, metadata, hmetadata, (hvalid.stores cache).find?_eq_some_iff.mpr hentry⟩
  · rintro ⟨_, metadata, hmetadata, _⟩
    rw [hmetadata]
    rfl

theorem isStored_iff (hvalid : world.Valid) {shared : Shared}
    (hshared : shared ∈ world.objects) :
    shared.pattern.isStored = true ↔ shared.pattern.metadata.isSome = true := by
  unfold Pattern.isStored
  cases hmetadata : shared.pattern.metadata with
  | none => simp
  | some metadata =>
    obtain ⟨cache, hentry⟩ := hvalid.held shared hshared metadata hmetadata
    obtain ⟨_, _, _, horigin⟩ := (hvalid.stores cache).origin _ hentry
    have hstored : metadata.stored = true :=
      congrArg Metadata.stored (Option.some.inj (hmetadata.symm.trans horigin.metadata_eq))
    simp [hstored]

end Valid

/-- In every world that operations lead to, an entry says what it was compiled from, a
    pattern carries a note exactly when it stands in a cache under the key of its note, no
    pattern stands in two places, and neither the pattern that matches nothing nor one made
    apart from all caches is annotated or stored. -/
theorem annotated_iff_stored {world : World} (hreach : Reaches {} world) :
    (∀ cache key shared, (world.caches cache).find? key = some shared →
      ∃ text given, Settings.allowsStoring given = true ∧ key = Key.derive text given ∧
        shared.pattern.source =
          (Settings.resolve given).opening ++ "(?:" ++
            (if (Settings.resolve given).negated then
              negation text (Settings.resolve given).settings else text) ++
            ")" ++ (Settings.resolve given).closing ∧
        Flags.parse? (Settings.resolve given).flags = some shared.pattern.flags ∧
        shared.pattern.metadata = some
          { stored := true
            pattern := shared.pattern.source
            settings := (Settings.resolve given).settings
            key }) ∧
    (∀ shared ∈ world.objects,
      (shared.pattern.isStored = true ↔ shared.pattern.metadata.isSome = true) ∧
      (shared.pattern.metadata.isSome = true ↔
        ∃ cache metadata, shared.pattern.metadata = some metadata ∧
          (world.caches cache).find? metadata.key = some shared)) ∧
    (∀ cache other key more shared held, (world.caches cache).find? key = some shared →
      (world.caches other).find? more = some held → shared.identity = held.identity →
      cache = other ∧ key = more) ∧
    (∀ shared, shared = .matchNothing ∨ world.MadeApart shared →
      shared.pattern.metadata = none ∧
        ∀ cache key held, (world.caches cache).find? key = some held →
          held.identity ≠ shared.identity) := by
  have hvalid := valid_of_reaches hreach valid_start
  refine ⟨?_, ?_, ?_, ?_⟩
  · intro cache key shared hfound
    obtain ⟨text, given, pattern, horigin⟩ :=
      (hvalid.stores cache).origin _ (Store.mem_of_find? hfound)
    exact ⟨text, given, horigin.allows, horigin.derives.symm, horigin.source_eq,
      horigin.parse?_eq, horigin.metadata_eq⟩
  · intro shared hshared
    exact ⟨hvalid.isStored_iff hshared, hvalid.metadata_eq_some_iff hshared⟩
  · intro cache other key more shared held hfound hagain hidentity
    exact hvalid.place_eq hfound hagain hidentity
  · rintro shared (rfl | hapart)
    · exact ⟨rfl, fun _ _ _ hfound =>
        hvalid.identity_ne_of_unannotated hvalid.sentinel rfl hfound⟩
    · exact ⟨hapart.metadata_eq, fun _ _ _ hfound =>
        hvalid.identity_ne_of_unannotated hapart.mem_objects hapart.metadata_eq hfound⟩

/-- A stored pattern becomes an element of a list that another cache is asked for. -/
theorem annotated_iff_stored_of_two_caches :
    let first := (perform {} (.call 0 { method := .make, input := .text "a" })).2
    let world := (perform first (.call 1
      { method := .compile, input := .list (first.objects.map .compiled) })).2
    (world.caches 0).size = 1 ∧ (world.caches 1).size = 1 ∧
      ∀ shared ∈ world.objects, shared.pattern.metadata.isSome = true ↔
        ∃ cache metadata, shared.pattern.metadata = some metadata ∧
          (world.caches cache).find? metadata.key = some shared := by
  intro first world
  have hfirst : Reaches {} first :=
    .single (.perform (.call 0 _) (by simp [Operation.patterns, Input.patterns]))
  have hworld : Reaches {} world :=
    .tail hfirst (.perform (.call 1 _) (by
      simp [Operation.patterns, Input.patterns, List.filterMap_map]))
  refine ⟨by decide +kernel, by decide +kernel, ?_⟩
  intro shared hshared
  exact ((annotated_iff_stored hworld).2.1 shared hshared).2

end World

end Patternwork
