import Mathlib.Data.Finset.Card
import Patternwork.Proofs.Settings.Resolution

namespace Patternwork.Settings

/-- A setter of an option that has a meaning, and what it is given. -/
inductive Builder where
  | cache (enabled : Bool)
  | contains (enabled : Bool)
  | negate (enabled : Bool)
  | strictNegate (enabled : Bool)
  | strict (enabled : Bool)
  | strictOpen (enabled : Bool)
  | strictClose (enabled : Bool)
  | flags (letters : String)
  | nocase (enabled : Bool)
  | wrap (enabled : Bool)
  | strictErrors (enabled : Bool)
  | endChar (quantifier : String)

/-- A step in which a record is built. What is merged into it was built in steps as well. -/
inductive Edit where
  | set (name : String) (value : Setting)
  | build (builder : Builder)
  | mergeNothing
  | merge (source : List Edit)

namespace Builder

def apply (settings : Settings) : Builder → Settings
  | cache enabled => settings.withCache enabled
  | contains enabled => settings.withContains enabled
  | negate enabled => settings.withNegate enabled
  | strictNegate enabled => settings.withStrictNegate enabled
  | strict enabled => settings.withStrict enabled
  | strictOpen enabled => settings.withStrictOpen enabled
  | strictClose enabled => settings.withStrictClose enabled
  | flags letters => settings.withFlags letters
  | nocase enabled => settings.withNocase enabled
  | wrap enabled => settings.withWrap enabled
  | strictErrors enabled => settings.withStrictErrors enabled
  | endChar quantifier => settings.withEndChar quantifier

/-- The one name that a setter writes, and the value. -/
def written : Builder → String × Setting
  | cache enabled => ("cache", .bool enabled)
  | contains enabled => ("contains", .bool enabled)
  | negate enabled => ("negate", .bool enabled)
  | strictNegate enabled => ("strictNegate", .bool enabled)
  | strict enabled => ("strict", .bool enabled)
  | strictOpen enabled => ("strictOpen", .bool enabled)
  | strictClose enabled => ("strictClose", .bool enabled)
  | flags letters => ("flags", .text letters)
  | nocase enabled => ("nocase", .bool enabled)
  | wrap enabled => ("wrap", .bool enabled)
  | strictErrors enabled => ("strictErrors", .bool enabled)
  | endChar quantifier => ("endChar", .text quantifier)

theorem apply_eq_set (settings : Settings) (builder : Builder) :
    builder.apply settings = settings.set builder.written.1 builder.written.2 := by
  cases builder <;> rfl

end Builder

namespace Edit

mutual

def apply (settings : Settings) : Edit → Settings
  | set name value => settings.set name value
  | build builder => builder.apply settings
  | mergeNothing => settings.merge none
  | merge source => settings.merge (some (applyAll empty source))

def applyAll (settings : Settings) : List Edit → Settings
  | [] => settings
  | edit :: rest => applyAll (edit.apply settings) rest

end

mutual

/-- The writes of a step, those that built what it merges included. -/
def writes : Edit → List (String × Setting)
  | set name value => [(name, value)]
  | build builder => [builder.written]
  | mergeNothing => []
  | merge source => allWrites source

def allWrites : List Edit → List (String × Setting)
  | [] => []
  | edit :: rest => edit.writes ++ allWrites rest

end

end Edit

/-- The value that was written to a name last. -/
def lastWrite? (history : List (String × Setting)) (name : String) : Option Setting :=
  history.reverse.lookup name

/-- The names that were written, in the order of their first writes. -/
def firstWrites (history : List (String × Setting)) : List String :=
  (history.map Prod.fst).eraseDups

variable {record source : Settings} {history more : List (String × Setting)} {name : String}
  {value : Setting}

/-- A record that holds what was written: all names by their first writes, all values by their
    last. -/
structure Holds (record : Settings) (history : List (String × Setting)) : Prop where
  names_eq : record.names = firstWrites history
  get?_eq : ∀ name, record.get? name = lastWrite? history name

section Order

variable {names more : List String}

theorem nodup_eraseDups (names : List String) : names.eraseDups.Nodup := by
  induction hlength : names.length using Nat.strongRecOn generalizing names with
  | ind length ih =>
    cases names with
    | nil => simp
    | cons name rest =>
      have hle := List.length_filter_le (fun other => !other == name) rest
      rw [List.eraseDups_cons, List.nodup_cons]
      refine ⟨by simp, ih _ ?_ _ rfl⟩
      rw [← hlength, List.length_cons]
      omega

theorem eraseDups_eq_self (hnodup : names.Nodup) : names.eraseDups = names := by
  induction names with
  | nil => rfl
  | cons name rest ih =>
    obtain ⟨hname, hrest⟩ := List.nodup_cons.mp hnodup
    have hfilter : (rest.filter fun other => !other == name) = rest := by
      rw [List.filter_eq_self]
      intro other hother
      simpa using fun heq : other = name => hname (heq ▸ hother)
    rw [List.eraseDups_cons, hfilter, ih hrest]

theorem filter_eraseDups (keep : String → Bool) (names : List String) :
    names.eraseDups.filter keep = (names.filter keep).eraseDups := by
  induction hlength : names.length using Nat.strongRecOn generalizing names with
  | ind length ih =>
    cases names with
    | nil => rfl
    | cons name rest =>
      have hshorter : (rest.filter fun other => !other == name).length < length := by
        have hle := List.length_filter_le (fun other => !other == name) rest
        rw [← hlength, List.length_cons]
        omega
      rw [List.eraseDups_cons, List.filter_cons, ih _ hshorter _ rfl, List.filter_filter]
      cases hkeep : keep name with
      | true =>
        rw [if_pos rfl, List.filter_cons_of_pos hkeep, List.eraseDups_cons, List.filter_filter]
        simp only [Bool.and_comm]
      | false =>
        -- The name is left out, so its later occurrences need not be taken away.
        have hsame : (rest.filter fun other => keep other && !other == name) =
            rest.filter keep := by
          refine List.filter_congr fun other _ => ?_
          by_cases heq : other = name
          · simp [heq, hkeep]
          · simp [heq]
        rw [if_neg (by simp), List.filter_cons_of_neg (by simp [hkeep]), hsame]

/-- It makes no difference whether repeated names are dropped from the parts before. -/
theorem eraseDups_append_eraseDups (names more : List String) :
    (names.eraseDups ++ more.eraseDups).eraseDups = (names ++ more).eraseDups := by
  have hremove : more.eraseDups.removeAll names.eraseDups = (more.removeAll names).eraseDups := by
    have helem (name : String) : names.eraseDups.elem name = names.elem name := by
      rw [Bool.eq_iff_iff, List.elem_iff, List.elem_iff, List.mem_eraseDups]
    simp only [List.removeAll, helem, filter_eraseDups]
  rw [List.eraseDups_append, List.eraseDups_append, hremove,
    eraseDups_eq_self (nodup_eraseDups names), eraseDups_eq_self (nodup_eraseDups _)]

end Order

theorem names_set (record : Settings) (name : String) (value : Setting) :
    (record.set name value).names = (record.names ++ [name]).eraseDups := by
  have hwrite (entries : List (String × Setting)) :
      (write name value entries).map Prod.fst =
        if name ∈ entries.map Prod.fst then entries.map Prod.fst
        else entries.map Prod.fst ++ [name] := by
    induction entries with
    | nil => simp [write]
    | cons entry rest ih =>
      by_cases hentry : entry.1 = name
      · simp [write, hentry]
      · rw [write, if_neg hentry, List.map_cons, ih]
        have hcons : name ∈ (entry :: rest).map Prod.fst ↔ name ∈ rest.map Prod.fst := by
          simp [Ne.symm hentry]
        simp only [hcons]
        split <;> rfl
  have hself : record.names.eraseDups = record.names := eraseDups_eq_self record.nodup
  refine (hwrite record.entries).trans ?_
  rw [List.eraseDups_append, hself]
  change (if name ∈ record.names then record.names else record.names ++ [name]) = _
  by_cases hname : name ∈ record.names <;>
    simp [List.removeAll, hname, List.eraseDups_cons]

theorem names_setAll (entries : List (String × Setting)) (record : Settings) :
    (record.setAll entries).names = (record.names ++ entries.map Prod.fst).eraseDups := by
  induction entries generalizing record with
  | nil =>
    rw [List.map_nil, List.append_nil]
    exact (eraseDups_eq_self record.nodup).symm
  | cons entry rest ih =>
    have hset := names_set record entry.1 entry.2
    calc ((record.set entry.1 entry.2).setAll rest).names
      _ = ((record.set entry.1 entry.2).names ++ rest.map Prod.fst).eraseDups := ih _
      _ = ((record.names ++ [entry.1]) ++ rest.map Prod.fst).eraseDups := by
        rw [hset, ← eraseDups_append_eraseDups, eraseDups_eq_self (nodup_eraseDups _),
          eraseDups_append_eraseDups]
      _ = _ := by rw [List.append_assoc]; rfl

theorem entries_set_of_not_mem (hname : name ∉ record.names) (value : Setting) :
    (record.set name value).entries = record.entries ++ [(name, value)] := by
  have hwrite (entries : List (String × Setting)) (hname : name ∉ entries.map Prod.fst) :
      write name value entries = entries ++ [(name, value)] := by
    induction entries with
    | nil => rfl
    | cons entry rest ih =>
      rw [List.map_cons, List.mem_cons, not_or] at hname
      rw [write, if_neg (Ne.symm hname.1), ih hname.2, List.cons_append]
  exact hwrite record.entries hname

theorem entries_set_of_mem (hname : name ∈ record.names) (value : Setting) :
    (record.set name value).entries =
      record.entries.map fun entry => if entry.1 = name then (name, value) else entry := by
  have hwrite (entries : List (String × Setting)) (hnodup : (entries.map Prod.fst).Nodup)
      (hname : name ∈ entries.map Prod.fst) :
      write name value entries =
        entries.map fun entry => if entry.1 = name then (name, value) else entry := by
    induction entries with
    | nil => cases hname
    | cons entry rest ih =>
      obtain ⟨hfirst, hrest⟩ := List.nodup_cons.mp hnodup
      by_cases hentry : entry.1 = name
      · -- The name is written here, and no entry after this one has it.
        have hothers : (rest.map fun entry => if entry.1 = name then (name, value) else entry) =
            rest := by
          nth_rewrite 2 [← List.map_id rest]
          apply List.map_congr_left
          intro other hother
          apply if_neg
          intro heq
          apply hfirst
          rw [hentry, ← heq]
          exact List.mem_map_of_mem hother
        rw [write, if_pos hentry, List.map_cons, if_pos hentry, hothers]
      · have hmem : name ∈ rest.map Prod.fst :=
          (List.mem_cons.mp hname).resolve_left (Ne.symm hentry)
        rw [write, if_neg hentry, List.map_cons, if_neg hentry, ih hrest hmem]
  exact hwrite record.entries record.nodup hname

/-- Setting the entries of a record one after another makes this record. -/
theorem ofList_entries (record : Settings) : ofList record.entries = record := by
  have hadded (entries : List (String × Setting)) (settings : Settings)
      (hnodup : ((settings.entries ++ entries).map Prod.fst).Nodup) :
      (settings.setAll entries).entries = settings.entries ++ entries := by
    induction entries generalizing settings with
    | nil => simp [setAll]
    | cons entry rest ih =>
      have hname : entry.1 ∉ settings.names := by
        rw [List.map_append, List.map_cons] at hnodup
        exact fun hmem => (List.nodup_append.mp hnodup).2.2 _ hmem _ (List.mem_cons_self ..) rfl
      have hset := entries_set_of_not_mem hname entry.2
      have hrest := ih (settings.set entry.1 entry.2) (by simpa [hset] using hnodup)
      rw [hset, List.append_assoc] at hrest
      exact hrest
  have hentries : (ofList record.entries).entries = record.entries :=
    hadded record.entries empty record.nodup
  cases record
  cases hofList : ofList _
  simp_all

namespace Holds

theorem empty : Holds empty [] := ⟨rfl, fun _ => rfl⟩

/-- A write goes to the end of the history. -/
theorem set (hholds : Holds record history) (name : String) (value : Setting) :
    Holds (record.set name value) (history ++ [(name, value)]) := by
  constructor
  case names_eq =>
    rw [names_set, hholds.names_eq, firstWrites, firstWrites, List.map_append,
      ← eraseDups_append_eraseDups (history.map Prod.fst)]
    rfl
  case get?_eq =>
    intro other
    rw [get?_set, hholds.get?_eq]
    by_cases hname : other = name
    · simp [lastWrite?, hname]
    · rw [if_neg hname, lastWrite?, lastWrite?, List.reverse_concat, List.lookup_cons,
        beq_eq_false_iff_ne.mpr hname]

theorem setAll (hholds : Holds record history) (entries : List (String × Setting)) :
    Holds (record.setAll entries) (history ++ entries) := by
  induction entries generalizing record history with
  | nil => simpa [Settings.setAll] using hholds
  | cons entry rest ih =>
    have hrest := ih (hholds.set entry.1 entry.2)
    rwa [List.append_assoc] at hrest

theorem ofList (entries : List (String × Setting)) : Holds (ofList entries) entries :=
  empty.setAll entries

/-- Merging adds what was written to the source, in the order in which it was written there. -/
theorem merge (hholds : Holds record history) (hsource : Holds source more) :
    Holds (record.merge (some source)) (history ++ more) := by
  constructor
  case names_eq =>
    change (record.setAll source.entries).names = _
    rw [names_setAll, hholds.names_eq]
    change (firstWrites history ++ source.names).eraseDups = _
    rw [hsource.names_eq, firstWrites, firstWrites, firstWrites, eraseDups_append_eraseDups,
      List.map_append]
  case get?_eq =>
    intro name
    change (record.setAll source.entries).get? name = _
    have hlast : lastWrite? (history ++ more) name =
        (lastWrite? more name).or (lastWrite? history name) := by
      rw [lastWrite?, List.reverse_append, List.lookup_append]
      rfl
    rw [get?_setAll _ source.nodup, hholds.get?_eq, hlast, ← hsource.get?_eq]
    rfl

mutual

/-- A step keeps a record in line with the writes that made it. -/
theorem apply (edit : Edit) {record : Settings} {history : List (String × Setting)}
    (hholds : Holds record history) : Holds (edit.apply record) (history ++ edit.writes) := by
  cases edit with
  | set name value => exact hholds.set name value
  | build builder =>
    rw [Edit.apply, builder.apply_eq_set]
    exact hholds.set _ _
  | mergeNothing =>
    rw [Edit.writes, List.append_nil]
    exact hholds
  | merge source => exact hholds.merge (applyAll source empty)

theorem applyAll (edits : List Edit) {record : Settings} {history : List (String × Setting)}
    (hholds : Holds record history) :
    Holds (Edit.applyAll record edits) (history ++ Edit.allWrites edits) := by
  cases edits with
  | nil =>
    rw [Edit.allWrites, List.append_nil]
    exact hholds
  | cons edit rest =>
    rw [Edit.allWrites, ← List.append_assoc]
    exact applyAll rest (apply edit hholds)

end

end Holds

theorem contains_iff_mem_names (record : Settings) (name : String) :
    record.contains name = true ↔ name ∈ record.names := by
  rw [contains, get?, List.lookup_isSome_iff, names, List.mem_map]
  simp only [beq_iff_eq, @eq_comm _ name]

/-- A write leaves every other entry where it is. -/
theorem getElem?_set {entry : String × Setting} {i : Nat} (hentry : record.entries[i]? = some entry)
    (hname : entry.1 ≠ name) : (record.set name value).entries[i]? = some entry := by
  have hwrite (entries : List (String × Setting)) (i : Nat) (hentry : entries[i]? = some entry) :
      (write name value entries)[i]? = some entry := by
    induction entries generalizing i with
    | nil => simp at hentry
    | cons first rest ih =>
      cases i with
      | zero =>
        obtain rfl : first = entry := by simpa using hentry
        simp [write, hname]
      | succ i =>
        have hrest : rest[i]? = some entry := by simpa using hentry
        by_cases hfirst : first.1 = name
        · simpa [write, hfirst] using hrest
        · simpa [write, hfirst] using ih i hrest
  exact hwrite record.entries i hentry

theorem getElem?_setAll {entries : List (String × Setting)} {entry : String × Setting} {i : Nat}
    (hentry : record.entries[i]? = some entry) (hname : entry.1 ∉ entries.map Prod.fst) :
    (record.setAll entries).entries[i]? = some entry := by
  induction entries generalizing record with
  | nil => exact hentry
  | cons first rest ih =>
    rw [List.map_cons, List.mem_cons, not_or] at hname
    exact ih (getElem?_set hentry hname.1) hname.2

/-- A step leaves every entry where it is that it does not write. -/
theorem Edit.getElem?_apply {edit : Edit} {entry : String × Setting} {i : Nat}
    (hentry : record.entries[i]? = some entry) (hname : entry.1 ∉ edit.writes.map Prod.fst) :
    (edit.apply record).entries[i]? = some entry := by
  cases edit with
  | set name value => exact getElem?_set hentry (by simpa [writes] using hname)
  | build builder =>
    rw [apply, builder.apply_eq_set]
    exact getElem?_set hentry (by simpa [writes] using hname)
  | mergeNothing => exact hentry
  | merge source =>
    have hsource := (Holds.applyAll source .empty).names_eq
    refine getElem?_setAll hentry ?_
    change entry.1 ∉ (applyAll Settings.empty source).names
    rw [hsource, firstWrites, List.mem_eraseDups]
    simpa [writes] using hname

/-- However a record is built, its names are those that were written, in the order of the first
    writes, its values are those that were written last, and a step moves or changes no entry
    that it does not write. -/
theorem Edit.insertion_ordered (edits : List Edit) :
    let record := applyAll Settings.empty edits
    let history := allWrites edits
    record.names.Nodup ∧ record.names = firstWrites history ∧
    (∀ name, record.get? name = lastWrite? history name) ∧
    record.size = (history.map Prod.fst).toFinset.card ∧
    (∀ (edit : Edit) (i : Nat) (entry : String × Setting), record.entries[i]? = some entry →
      entry.1 ∉ edit.writes.map Prod.fst → (edit.apply record).entries[i]? = some entry) ∧
    ∀ name,
      (record.contains name = true ↔ name ∈ history.map Prod.fst) ∧
      record.bool? name = (lastWrite? history name).bind Setting.bool? ∧
      (record.isTrue name = true ↔ lastWrite? history name = some (.bool true)) ∧
      (record.isFalse name = true ↔ lastWrite? history name = some (.bool false)) ∧
      (record.isTruthy name = true ↔
        ∃ value, lastWrite? history name = some value ∧ value.truthy = true) := by
  intro record history
  have hholds : Holds record history := Holds.applyAll edits .empty
  have hsize : record.size = (history.map Prod.fst).toFinset.card := by
    have hset : (history.map Prod.fst).toFinset = record.names.toFinset := by
      ext name
      rw [hholds.names_eq, firstWrites, List.mem_toFinset, List.mem_toFinset, List.mem_eraseDups]
    have hnodup : record.names.Nodup := record.nodup
    rw [hset, List.toFinset_card_of_nodup hnodup, names, List.length_map]
    rfl
  refine ⟨record.nodup, hholds.names_eq, hholds.get?_eq, hsize,
    fun edit i entry hentry hname => edit.getElem?_apply hentry hname, fun name => ?_⟩
  have hbool (b : Bool) : (lastWrite? history name).bind Setting.bool? = some b ↔
      lastWrite? history name = some (.bool b) := by
    cases lastWrite? history name with
    | none => simp
    | some value => cases value <;> simp [Setting.bool?]
  refine ⟨?_, ?_, ?_, ?_, ?_⟩
  · have hmem : name ∈ history.map Prod.fst ↔ name ∈ record.names := by
      rw [hholds.names_eq, firstWrites, List.mem_eraseDups]
    rw [hmem, contains_iff_mem_names]
  · rw [bool?, hholds.get?_eq]
  · rw [isTrue, bool?, hholds.get?_eq, beq_iff_eq, hbool]
  · rw [isFalse, bool?, hholds.get?_eq, beq_iff_eq, hbool]
  · rw [isTruthy, hholds.get?_eq, Option.any_eq_true]

/-- A record that is merged into another one writes a name again, which keeps its place. -/
theorem Edit.insertion_ordered_of_merge :
    let edits : List Edit :=
      [.set "a" (.int 1), .build (.flags "i"), .merge [.set "b" (.int 2), .set "a" (.int 3)]]
    (applyAll Settings.empty edits).entries =
        [("a", .int 3), ("flags", .text "i"), ("b", .int 2)] ∧
      firstWrites (allWrites edits) = ["a", "flags", "b"] ∧
      lastWrite? (allWrites edits) "a" = some (.int 3) ∧
      (Edit.apply (applyAll Settings.empty edits) (.build (.nocase true))).entries[1]? =
        some ("flags", .text "i") := by
  intro edits
  obtain ⟨_, hnames, hlast, _, hframe, _⟩ := insertion_ordered edits
  refine ⟨by decide, hnames.symm.trans (by decide), (hlast "a").symm.trans (by decide), ?_⟩
  exact hframe (.build (.nocase true)) 1 ("flags", .text "i") (by decide) (by decide)

end Patternwork.Settings
