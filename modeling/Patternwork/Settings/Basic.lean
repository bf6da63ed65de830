import Patternwork.Setting

namespace Patternwork

/-- Writes `value` under `name`: in place if the name is present, else at the
    end. -/
def Settings.write (name : String) (value : Setting) :
    List (String × Setting) → List (String × Setting)
  | [] => [(name, value)]
  | entry :: rest =>
    if entry.1 = name then (name, value) :: rest else entry :: write name value rest

/-- Writing adds no name but its own. -/
theorem Settings.mem_names_write {name other : String} {value : Setting}
    {entries : List (String × Setting)} :
    other ∈ (write name value entries).map Prod.fst ↔
      other = name ∨ other ∈ entries.map Prod.fst := by
  induction entries with
  | nil => simp [write]
  | cons entry rest ih =>
    by_cases heq : entry.1 = name
    · subst heq
      simp [write]
    · simp only [write, heq, if_false, List.map_cons, List.mem_cons, ih]
      grind

theorem Settings.nodup_write {name : String} {value : Setting}
    {entries : List (String × Setting)} (hnodup : (entries.map Prod.fst).Nodup) :
    ((write name value entries).map Prod.fst).Nodup := by
  induction entries with
  | nil => simp [write]
  | cons entry rest ih =>
    simp only [List.map_cons, List.nodup_cons] at hnodup
    by_cases heq : entry.1 = name
    · subst heq
      simpa [write] using hnodup
    · simp only [write, heq, if_false, List.map_cons, List.nodup_cons, mem_names_write]
      exact ⟨by simp [hnodup.1], ih hnodup.2⟩

/-- An option record. -/
structure Settings where
  entries : List (String × Setting)
  nodup : (entries.map Prod.fst).Nodup
  deriving DecidableEq

namespace Settings

/-- The record without entries. -/
def empty : Settings := ⟨[], by simp⟩

instance : Inhabited Settings := ⟨empty⟩
instance : EmptyCollection Settings := ⟨empty⟩

/-- Sets `name`, in place if it is present, else as the last entry. -/
def set (settings : Settings) (name : String) (value : Setting) : Settings :=
  ⟨write name value settings.entries, nodup_write settings.nodup⟩

/-- The value of `name`. -/
def get? (settings : Settings) (name : String) : Option Setting :=
  settings.entries.lookup name

/-- The value of `name` if it is a boolean. -/
def bool? (settings : Settings) (name : String) : Option Bool :=
  (settings.get? name).bind Setting.bool?

/-- Whether `name` is exactly the boolean `true`. -/
def isTrue (settings : Settings) (name : String) : Bool :=
  settings.bool? name == some true

/-- Whether `name` is exactly the boolean `false`. -/
def isFalse (settings : Settings) (name : String) : Bool :=
  settings.bool? name == some false

/-- Whether `name` is present and truthy. -/
def isTruthy (settings : Settings) (name : String) : Bool :=
  (settings.get? name).any Setting.truthy

/-- The text of `name` if its value is truthy. -/
def truthyText? (settings : Settings) (name : String) : Option String :=
  ((settings.get? name).filter Setting.truthy).map Setting.display

def contains (settings : Settings) (name : String) : Bool :=
  (settings.get? name).isSome

def size (settings : Settings) : Nat :=
  settings.entries.length

def isEmpty (settings : Settings) : Bool :=
  settings.entries.isEmpty

def names (settings : Settings) : List String :=
  settings.entries.map Prod.fst

/-- Sets the entries of a list one after another. -/
def setAll (settings : Settings) (entries : List (String × Setting)) : Settings :=
  entries.foldl (fun record entry => record.set entry.1 entry.2) settings

def ofList (entries : List (String × Setting)) : Settings :=
  empty.setAll entries

/-- `settings` with every entry of `source` written over it. -/
def merge (settings : Settings) (source : Option Settings) : Settings :=
  match source with
  | none => settings
  | some source => settings.setAll source.entries

/-- Whether two records are equal entry by entry, as values. -/
def same (a b : Settings) : Bool :=
  a.size == b.size &&
    (a.entries.zip b.entries).all fun (x, y) => x.1 == y.1 && x.2.same y.2

end Settings

end Patternwork
