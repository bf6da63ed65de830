import Patternwork.Key
import Patternwork.Loading.File
import Patternwork.Proofs.Json.Number
import Patternwork.Proofs.Json.Quoted
import Patternwork.Proofs.Settings.History

namespace Patternwork

namespace Json

/-- A document without fractions. Names may repeat in an object. -/
inductive Document where
  | null
  | bool (value : Bool)
  | int (value : Int64)
  | text (value : String)
  | array (items : List Document)
  | object (members : List (String × Document))

namespace Document

mutual

/-- The compact text of a document. -/
def written : Document → List Char
  | null => "null".toList
  | bool b => (if b then "true" else "false").toList
  | int n => (toString n.toInt).toList
  | text s => quote s.toList
  | array items => '[' :: (writtenItems items ++ [']'])
  | object members => '\x7b' :: (writtenMembers members ++ ['\x7d'])

def writtenItems : List Document → List Char
  | [] => []
  | [item] => item.written
  | item :: rest => item.written ++ ',' :: writtenItems rest

def writtenMembers : List (String × Document) → List Char
  | [] => []
  | [(name, value)] => quote name.toList ++ ':' :: value.written
  | (name, value) :: rest => quote name.toList ++ ':' :: (value.written ++ ',' :: writtenMembers rest)

end

/-- The value of an option that a document stands for. -/
def setting? : Document → Option Setting
  | bool b => some (.bool b)
  | int n => some (.int n)
  | text s => some (.text s)
  | null | array _ | object _ => none

/-- The entries that members stand for, if all of them are plain values. -/
def entries? : List (String × Document) → Option (List (String × Setting))
  | [] => some []
  | (name, value) :: rest => do some ((name, ← value.setting?) :: (← entries? rest))

end Document

variable {document : Document} {members : List (String × Document)} {rest : List Char} {fuel : Nat}

/-- Members stand for entries if the value of each of them is a plain value. -/
theorem Document.isSome_entries?_iff : (Document.entries? members).isSome = true ↔
    ∀ member ∈ members, member.2.setting?.isSome = true := by
  induction members with
  | nil => simp [Document.entries?]
  | cons member members ih =>
    rw [List.forall_mem_cons, ← ih]
    cases hvalue : member.2.setting? <;> cases hentries : Document.entries? members <;>
      simp [Document.entries?, hvalue, hentries]

theorem skipBlanks_of_startsNumber {c : Char} (hnumber : startsNumber c = true)
    (rest : List Char) : skipBlanks (c :: rest) = c :: rest := by
  refine skipBlanks.eq_5 _ ?_ ?_ ?_ ?_
  all_goals
    rintro after heq
    rw [(List.cons.inj heq).1] at hnumber
    exact absurd hnumber (by decide)

/-- An integer is written with a sign or a digit first. -/
theorem exists_toString_eq_cons (n : Int64) :
    ∃ c digits, (toString n.toInt).toList = c :: digits ∧ startsNumber c = true := by
  change ∃ c digits, n.toInt.repr.toList = c :: digits ∧ startsNumber c = true
  rw [Int.repr_eq_if]
  split
  · cases hdigits : Nat.toDigits 10 n.toInt.toNat with
    | nil => exact absurd hdigits Nat.toDigits_ne_nil
    | cons c digits =>
      have hmem : c ∈ Nat.toDigits 10 n.toInt.toNat := hdigits ▸ List.mem_cons_self ..
      exact ⟨c, digits, by rw [Nat.toList_repr, hdigits],
        by simp [startsNumber, Decimal.isDigit_of_mem_toDigits hmem]⟩
  · exact ⟨'-', _, by rw [String.toList_append]; rfl, rfl⟩

theorem readSetting_of_startsNumber {c : Char} (hnumber : startsNumber c = true)
    (rest : List Char) :
    readSetting (c :: rest) =
      required ((Number.read (c :: rest)).map fun (n, rest) => (n.setting, rest)) := by
  rw [readSetting, skipBlanks_of_startsNumber hnumber]
  split
  case h_1 heq => cases heq
  case h_2 | h_3 | h_4 =>
    rename_i heq
    rw [(List.cons.inj heq).1] at hnumber
    exact absurd hnumber (by decide)
  case h_5 heq =>
    obtain ⟨rfl, rfl⟩ := List.cons.inj heq
    rw [if_pos hnumber]

theorem setting_integer (n : Int64) : (Number.integer n.toInt).setting = .int n := by
  have hmax : n.toInt < Nat.pow 2 63 := n.toInt_lt
  rw [Number.setting, Setting.ofInteger, if_pos hmax, Int64.ofInt_toInt]

/-- A plain value is read as what it stands for. -/
theorem readSetting_of_setting? {value : Setting} (hends : Number.Ends rest)
    (hvalue : document.setting? = some value) :
    readSetting (document.written ++ rest) = .ok (value, rest) := by
  cases document with
  | null | array | object => cases hvalue
  | bool b =>
    obtain rfl := Option.some.inj hvalue
    cases b <;> rfl
  | int n =>
    obtain rfl := Option.some.inj hvalue
    obtain ⟨c, digits, htext, hnumber⟩ := exists_toString_eq_cons n
    have hread := Number.read_toString hends n
    rw [htext, List.cons_append] at hread
    rw [Document.written, htext, List.cons_append, readSetting_of_startsNumber hnumber, hread]
    exact congrArg (fun value => Except.ok (value, rest)) (setting_integer n)
  | text s =>
    obtain rfl := Option.some.inj hvalue
    have hquoted := readQuoted_flatMap_escape s rest
    have hwritten : (Document.text s).written ++ rest =
        '"' :: (s.toList.flatMap escape ++ '"' :: rest) := by
      simp [Document.written, quote]
    rw [hwritten]
    change required ((readQuoted _).map _) = _
    rw [hquoted]
    rfl

/-- Any other value is refused where it begins. -/
theorem readSetting_of_setting?_eq_none (hvalue : document.setting? = none) (rest : List Char) :
    ∃ found, readSetting (document.written ++ rest) = mismatch found .value := by
  cases document with
  | null => exact ⟨.null, rfl⟩
  | array items => exact ⟨.sequence, rfl⟩
  | object members => exact ⟨.map, rfl⟩
  | bool | int | text => cases hvalue

/-- The text of one member of an object. -/
def writtenMember (member : String × Document) : List Char :=
  quote member.1.toList ++ ':' :: member.2.written

/-- A quoted name and a colon begin an entry. -/
theorem readEntry_quote (name : String) (text : List Char) :
    readEntry (quote name.toList ++ ':' :: text) =
      (readSetting text).bind fun (value, rest) => .ok ((name, value), rest) := by
  have hquoted : quote name.toList ++ ':' :: text =
      '"' :: (name.toList.flatMap escape ++ '"' :: (':' :: text)) := by
    simp [quote]
  rw [hquoted, readEntry, readQuoted_flatMap_escape]
  rfl

theorem readEntry_writtenMember (member : String × Document) (rest : List Char) :
    readEntry (writtenMember member ++ rest) =
      (readSetting (member.2.written ++ rest)).bind fun (value, rest) =>
        .ok ((member.1, value), rest) := by
  rw [writtenMember, List.append_assoc, List.cons_append, readEntry_quote]

/-- The text of the members that follow another one. -/
def writtenAfter (members : List (String × Document)) : List Char :=
  members.flatMap fun member => ',' :: writtenMember member

theorem writtenMembers_cons (member : String × Document) (members : List (String × Document)) :
    Document.writtenMembers (member :: members) = writtenMember member ++ writtenAfter members := by
  induction members generalizing member with
  | nil => simp [Document.writtenMembers, writtenMember, writtenAfter]
  | cons next members ih =>
    rw [Document.writtenMembers, ih next]
    · simp [writtenMember, writtenAfter]
    · exact List.cons_ne_nil next members

theorem ends_writtenAfter (members : List (String × Document)) (rest : List Char) :
    Number.Ends (writtenAfter members ++ '\x7d' :: rest) := by
  cases members <;> simp [writtenAfter, Number.Ends]

/-- A member is read, whether it is the first of its object or comes after a comma. -/
theorem readEntries_succ (first : Bool) (fuel : Nat) (settings : Settings)
    (member : String × Document) (rest : List Char) :
    readEntries (fuel + 1) first settings
        ((if first then [] else [',']) ++ (writtenMember member ++ rest)) =
      (readEntry (writtenMember member ++ rest)).bind fun (entry, rest) =>
        readEntries fuel false (settings.set entry.1 entry.2) rest := by
  cases first <;> rfl

/-- A member with a plain value is set. -/
theorem readEntries_of_setting? {member : String × Document} {value : Setting}
    (hends : Number.Ends rest) (hvalue : member.2.setting? = some value) (first : Bool)
    (fuel : Nat) (settings : Settings) :
    readEntries (fuel + 1) first settings
        ((if first then [] else [',']) ++ (writtenMember member ++ rest)) =
      readEntries fuel false (settings.set member.1 value) rest := by
  rw [readEntries_succ, readEntry_writtenMember, readSetting_of_setting? hends hvalue]
  rfl

/-- A member with any other value ends the reading. -/
theorem readEntries_of_setting?_eq_none {member : String × Document}
    (hvalue : member.2.setting? = none) (first : Bool) (fuel : Nat) (settings : Settings)
    (rest : List Char) :
    ∃ found, readEntries (fuel + 1) first settings
      ((if first then [] else [',']) ++ (writtenMember member ++ rest)) = mismatch found .value := by
  obtain ⟨found, hread⟩ := readSetting_of_setting?_eq_none hvalue rest
  refine ⟨found, ?_⟩
  rw [readEntries_succ, readEntry_writtenMember, hread]
  rfl

/-- What reading members comes to: a record with their entries, or a mismatch. -/
def Loads (members : List (String × Document)) (settings : Settings) (rest : List Char)
    (result : Except Unreadable (Settings × List Char)) : Prop :=
  match Document.entries? members with
  | some entries => result = .ok (settings.setAll entries, rest)
  | none => ∃ found, result = mismatch found .value

/-- What a first member and the members after it are read to. -/
theorem Loads.cons (member : String × Document) {more : List Char}
    (hafter : ∀ settings, Loads members settings more
      (readEntries fuel false settings (writtenAfter members ++ '\x7d' :: more)))
    (first : Bool) (settings : Settings) :
    Loads (member :: members) settings more
      (readEntries (fuel + 1) first settings
        ((if first then [] else [',']) ++
          (writtenMember member ++ (writtenAfter members ++ '\x7d' :: more)))) := by
  unfold Loads at hafter ⊢
  cases hvalue : member.2.setting? with
  | none =>
    have hnone : Document.entries? (member :: members) = none := by
      simp [Document.entries?, hvalue]
    rw [hnone]
    exact readEntries_of_setting?_eq_none hvalue first fuel settings _
  | some value =>
    have hread := readEntries_of_setting? (ends_writtenAfter members more) hvalue first fuel settings
    have hrest := hafter (settings.set member.1 value)
    rw [hread]
    cases hentries : Document.entries? members with
    | none =>
      have hnone : Document.entries? (member :: members) = none := by
        simp [Document.entries?, hvalue, hentries]
      rw [hnone]
      rwa [hentries] at hrest
    | some entries =>
      have hsome : Document.entries? (member :: members) = some ((member.1, value) :: entries) := by
        simp [Document.entries?, hvalue, hentries]
      rw [hsome]
      rwa [hentries] at hrest

theorem loads_writtenAfter (hfuel : members.length < fuel) (settings : Settings)
    (rest : List Char) :
    Loads members settings rest
      (readEntries fuel false settings (writtenAfter members ++ '\x7d' :: rest)) := by
  induction members generalizing fuel settings with
  | nil =>
    obtain ⟨fuel, rfl⟩ := Nat.exists_eq_succ_of_ne_zero (Nat.ne_of_gt hfuel)
    rfl
  | cons member members ih =>
    obtain ⟨fuel, rfl⟩ := Nat.exists_eq_succ_of_ne_zero (Nat.ne_of_gt (Nat.zero_lt_of_lt hfuel))
    have hmember := Loads.cons member
      (fun settings => ih (Nat.lt_of_succ_lt_succ hfuel) settings) false settings
    simpa [writtenAfter] using hmember

theorem length_le_length_writtenMembers (members : List (String × Document)) :
    members.length ≤ (Document.writtenMembers members).length := by
  have hafter (members : List (String × Document)) :
      members.length ≤ (writtenAfter members).length := by
    induction members with
    | nil => simp
    | cons member members ih =>
      simp only [writtenAfter, List.flatMap_cons, List.length_append, List.length_cons] at ih ⊢
      omega
  cases members with
  | nil => simp
  | cons member members =>
    have hle := hafter members
    rw [writtenMembers_cons, List.length_append, writtenMember, List.length_append]
    simp only [List.length_cons]
    omega

/-- The members of an object are read to its end. -/
theorem loads_writtenMembers (hfuel : members.length < fuel) (settings : Settings)
    (rest : List Char) :
    Loads members settings rest
      (readEntries fuel true settings (Document.writtenMembers members ++ '\x7d' :: rest)) := by
  obtain ⟨fuel, rfl⟩ := Nat.exists_eq_succ_of_ne_zero (Nat.ne_of_gt (Nat.zero_lt_of_lt hfuel))
  cases members with
  | nil => rfl
  | cons member members =>
    have hmember := Loads.cons member
      (fun settings => loads_writtenAfter (Nat.lt_of_succ_lt_succ hfuel) settings rest) true settings
    simpa [writtenMembers_cons] using hmember

/-- An object is read member by member. -/
theorem readRecord_object (members : List (String × Document)) :
    ∃ result, readRecord (String.ofList (Document.object members).written) = result.bind atEnd ∧
      Loads members .empty [] result := by
  have hle := length_le_length_writtenMembers members
  have hfuel : members.length < (Document.writtenMembers members).length + 2 := by omega
  refine ⟨_, ?_, loads_writtenMembers hfuel .empty []⟩
  rw [readRecord, String.toList_ofList]
  change (readEntries ((Document.writtenMembers members ++ ['\x7d']).length + 1) true .empty
    (Document.writtenMembers members ++ ['\x7d'])).bind atEnd = _
  rw [List.length_append]
  rfl

theorem readRecord_of_entries? {entries : List (String × Setting)}
    (hentries : Document.entries? members = some entries) :
    readRecord (String.ofList (Document.object members).written) = .ok (.ofList entries) := by
  obtain ⟨result, hread, hloads⟩ := readRecord_object members
  rw [Loads, hentries] at hloads
  rw [hread, hloads]
  rfl

theorem entries?_ne_none_of_readRecord {record : Settings}
    (hread : readRecord (String.ofList (Document.object members).written) = .ok record) :
    Document.entries? members ≠ none := by
  intro hnone
  obtain ⟨result, heq, hloads⟩ := readRecord_object members
  rw [Loads, hnone] at hloads
  obtain ⟨found, rfl⟩ := hloads
  rw [hread] at heq
  cases heq

/-- A text that does not begin with a brace holds no record. -/
theorem readRecord_ne_ok {text : String} (hbrace : ∀ rest, skipBlanks text.toList ≠ '\x7b' :: rest)
    (record : Settings) : readRecord text ≠ .ok record := by
  unfold readRecord
  split
  next rest heq => exact absurd heq (hbrace rest)
  next =>
    intro hread
    cases hfound : foundAt (skipBlanks text.toList) <;> rw [hfound] at hread <;> cases hread

theorem readRecord_of_ne_object (hobject : ∀ members, document ≠ .object members)
    (record : Settings) : readRecord (String.ofList document.written) ≠ .ok record := by
  refine readRecord_ne_ok (fun rest => ?_) record
  rw [String.toList_ofList]
  cases document with
  | object members => exact absurd rfl (hobject members)
  | int n =>
    obtain ⟨c, digits, htext, hnumber⟩ := exists_toString_eq_cons n
    rw [Document.written, htext, skipBlanks_of_startsNumber hnumber]
    rintro heq
    rw [(List.cons.inj heq).1] at hnumber
    exact absurd hnumber (by decide)
  | bool b => cases b <;> simp [Document.written, skipBlanks]
  | null | text | array => simp [Document.written, skipBlanks, quote]

end Json

open Json

namespace Settings

theorem ofJson_eq_ok_iff {text : String} {record : Settings} :
    ofJson text = .ok record ↔ readRecord text = .ok record := by
  unfold ofJson
  cases readRecord text <;> simp [Except.mapError]

/-- The record holds no double. -/
def FloatFree (record : Settings) : Prop :=
  ∀ entry ∈ record.entries, ∀ x, entry.2 ≠ .float x

end Settings

/-- A value as a document; a double has none. -/
def Setting.document : Setting → Document
  | .bool b => .bool b
  | .int n => .int n
  | .float _ => .null
  | .text s => .text s

theorem Setting.written_document {value : Setting} (hfloat : ∀ x, value ≠ .float x) :
    value.document.written = (settingText value).toList ∧
      value.document.setting? = some value := by
  cases value with
  | float x => exact absurd rfl (hfloat x)
  | bool b => exact ⟨rfl, rfl⟩
  | int n => exact ⟨rfl, rfl⟩
  | text s => exact ⟨String.toList_ofList.symm, rfl⟩

namespace Settings

variable {record : Settings}

/-- The members of the object that a record is written as. -/
def members (record : Settings) : List (String × Document) :=
  record.entries.map fun entry => (entry.1, entry.2.document)

theorem json_eq_written (hfloat : record.FloatFree) :
    record.json = String.ofList (Document.object record.members).written := by
  have hentries (entries : List (String × Setting))
      (hfloat : ∀ entry ∈ entries, ∀ x, entry.2 ≠ .float x) :
      (",".intercalate (entries.map fun entry =>
        String.ofList (quote entry.1.toList) ++ ":" ++ settingText entry.2)).toList =
      Document.writtenMembers (entries.map fun entry => (entry.1, entry.2.document)) := by
    induction entries with
    | nil => rfl
    | cons entry rest ih =>
      have hwritten := (entry.2.written_document (hfloat entry (List.mem_cons_self ..))).1
      cases rest with
      | nil => simp [Document.writtenMembers, hwritten]
      | cons next rest =>
        have hrest := ih fun entry hentry => hfloat entry (List.mem_cons_of_mem _ hentry)
        simp only [List.map_cons] at hrest ⊢
        rw [String.intercalate_cons_cons, String.toList_append, hrest]
        simp [Document.writtenMembers, hwritten]
  rw [← String.toList_inj, String.toList_ofList, json, Document.written, members,
    ← hentries record.entries hfloat]
  simp

theorem entries?_members (hfloat : record.FloatFree) :
    Document.entries? record.members = some record.entries := by
  have hentries (entries : List (String × Setting))
      (hfloat : ∀ entry ∈ entries, ∀ x, entry.2 ≠ .float x) :
      Document.entries? (entries.map fun entry => (entry.1, entry.2.document)) = some entries := by
    induction entries with
    | nil => rfl
    | cons entry rest ih =>
      have hvalue := (entry.2.written_document (hfloat entry (List.mem_cons_self ..))).2
      have hrest := ih fun entry hentry => hfloat entry (List.mem_cons_of_mem _ hentry)
      rw [List.map_cons, Document.entries?, hvalue, hrest]
      rfl
  exact hentries record.entries hfloat

/-- A record without doubles is loaded from its own text. -/
theorem ofJson_json (hfloat : record.FloatFree) : ofJson record.json = .ok record := by
  have hread := readRecord_of_entries? (entries?_members hfloat)
  rw [ofList_entries, ← json_eq_written hfloat] at hread
  exact ofJson_eq_ok_iff.mpr hread

/-- A record is loaded from a document exactly if this is an object whose members are plain
    values. The names of the record are those of the members, in the order in which they come up
    first, with the values that come up last. A record without doubles is loaded from its own
    text, and has the same keys then. -/
theorem ofJson_document :
    (∀ document : Document,
      (∃ record, ofJson (String.ofList document.written) = .ok record) ↔
        ∃ members, document = .object members ∧
          ∀ member ∈ members, (member.2.setting?).isSome = true) ∧
    (∀ members entries, Document.entries? members = some entries →
      ∃ record, ofJson (String.ofList (Document.object members).written) = .ok record ∧
        record = ofList entries ∧ record.names = firstWrites entries ∧
        ∀ name, record.get? name = lastWrite? entries name) ∧
    ∀ record : Settings, record.FloatFree →
      ∃ loaded, ofJson record.json = .ok loaded ∧ loaded = record ∧
        loaded.entries = record.entries ∧
        ∀ pattern, Key.derive pattern (some loaded) = Key.derive pattern (some record) := by
  refine ⟨fun document => ?_, fun members entries hentries => ?_, fun record hfloat =>
    ⟨record, ofJson_json hfloat, rfl, rfl, fun _ => rfl⟩⟩
  · constructor
    · rintro ⟨record, hload⟩
      rw [ofJson_eq_ok_iff] at hload
      cases document with
      | object members =>
        exact ⟨members, rfl, Document.isSome_entries?_iff.mp
          (Option.isSome_iff_ne_none.mpr (entries?_ne_none_of_readRecord hload))⟩
      | null | bool | int | text | array =>
        exact absurd hload (readRecord_of_ne_object (fun _ => Document.noConfusion) record)
    · rintro ⟨members, rfl, hplain⟩
      obtain ⟨entries, hentries⟩ := Option.isSome_iff_exists.mp
        (Document.isSome_entries?_iff.mpr hplain)
      exact ⟨ofList entries, ofJson_eq_ok_iff.mpr (readRecord_of_entries? hentries)⟩
  · have hread := ofJson_eq_ok_iff.mpr (readRecord_of_entries? hentries)
    exact ⟨ofList entries, hread, rfl, (Holds.ofList entries).names_eq,
      (Holds.ofList entries).get?_eq⟩

/-- A name that repeats in an object, and a record with a negative number and a text that is
    escaped. -/
theorem ofJson_document_of_repeated :
    let members : List (String × Document) :=
      [("a", .int 1), ("b", .text "\"\n"), ("a", .bool true)]
    let record : Settings := ofList [("n", .int (-5)), ("s", .text "\\é")]
    (∃ loaded, ofJson (String.ofList (Document.object members).written) = .ok loaded ∧
      loaded.entries = [("a", .bool true), ("b", .text "\"\n")]) ∧
    (∃ loaded, ofJson record.json = .ok loaded ∧ loaded = record) ∧
    ¬ ∃ loaded, ofJson (String.ofList (Document.array [.int 1]).written) = .ok loaded := by
  intro members record
  obtain ⟨hobject, hmembers, hrecord⟩ := ofJson_document
  have hfloat : record.FloatFree := by
    intro entry hentry x
    have hentries : record.entries = [("n", .int (-5)), ("s", .text "\\é")] := by decide
    rw [hentries] at hentry
    rcases List.mem_pair.mp hentry with rfl | rfl <;> exact Setting.noConfusion
  obtain ⟨loaded, hload, rfl, _⟩ := hmembers members
    [("a", .int 1), ("b", .text "\"\n"), ("a", .bool true)] rfl
  obtain ⟨own, hown, heq, _⟩ := hrecord record hfloat
  refine ⟨⟨_, hload, by decide⟩, ⟨own, hown, heq⟩, fun hloaded => ?_⟩
  obtain ⟨_, heq, _⟩ := (hobject (.array [.int 1])).mp hloaded
  cases heq

end Settings

end Patternwork
