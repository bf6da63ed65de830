import Patternwork.Store

namespace Patternwork

/-- The characters that stand for something else than themselves. -/
def metaCharacters : List Char :=
  ['\\', '.', '+', '*', '?', '(', ')', '|', '[', ']', '\x7b', '\x7d', '^', '$']

/-- A text that stands for itself. -/
def Literal (text : List Char) : Prop := ∀ c ∈ text, c ∉ metaCharacters

instance (text : List Char) : Decidable (Literal text) :=
  List.decidableBAll _ text

theorem Literal.of_cons {c : Char} {rest : List Char} (hliteral : Literal (c :: rest)) :
    c ∉ metaCharacters ∧ Literal rest :=
  ⟨hliteral c (List.mem_cons_self ..), fun d hd => hliteral d (List.mem_cons_of_mem c hd)⟩

namespace Item

/-- A text among the alternatives of a list. -/
def branch (wrap : Bool) (item : List Char) : List Char :=
  if wrap then '(' :: '?' :: ':' :: (item ++ [')']) else item

/-- Texts as alternatives. -/
def branches (wrap : Bool) : List (List Char) → List Char
  | [] => []
  | [item] => branch wrap item
  | item :: more => branch wrap item ++ '|' :: branches wrap more

/-- A text in a group between the anchors that are called for. -/
def anchored (start stop : Bool) (body : List Char) : List Char :=
  (if start then ['^'] else []) ++
    '(' :: '?' :: ':' :: (body ++ ')' :: if stop then ['$'] else [])

theorem toList_join (wrap : Bool) (items : List Item) :
    (join wrap items).toList = branches wrap (items.map fun item => item.source.toList) := by
  have hbranch (item : Item) :
      (if wrap then "(?:" ++ item.source ++ ")" else item.source).toList =
        branch wrap item.source.toList := by
    cases wrap <;> simp [branch]
  induction items with
  | nil => simp [join, branches]
  | cons item more ih =>
    cases more with
    | nil => simpa [join, branches] using hbranch item
    | cons next more =>
      have hjoin : join wrap (item :: next :: more) =
          (if wrap then "(?:" ++ item.source ++ ")" else item.source) ++ "|" ++
            join wrap (next :: more) := by
        simp only [join, List.map_cons, String.intercalate_cons_cons]
      rw [hjoin, String.toList_append, String.toList_append, hbranch, ih]
      simp [branches]

end Item

/-- Reading a text comes from one state to another, by rounds that each take a part of it. -/
def Leads {State : Type} (read : Nat → State → List Char → Option State) (state : State)
    (input : List Char) (next : State) (rest : List Char) : Prop :=
  ∃ rounds, rounds + rest.length ≤ input.length ∧
    ∀ fuel, read (fuel + rounds) state input = read fuel next rest

namespace Leads

variable {State : Type} {read : Nat → State → List Char → Option State}
  {state next last : State} {input rest left : List Char}

theorem refl (read : Nat → State → List Char → Option State) (state : State)
    (input : List Char) : Leads read state input state input :=
  ⟨0, by omega, fun _ => rfl⟩

theorem single (hlength : rest.length < input.length)
    (hread : ∀ fuel, read (fuel + 1) state input = read fuel next rest) :
    Leads read state input next rest :=
  ⟨1, by omega, hread⟩

theorem trans (hfirst : Leads read state input next rest)
    (hnext : Leads read next rest last left) : Leads read state input last left := by
  obtain ⟨rounds, hlength, hread⟩ := hfirst
  obtain ⟨more, hless, hmore⟩ := hnext
  refine ⟨more + rounds, by omega, fun fuel => ?_⟩
  rw [← Nat.add_assoc, hread, hmore]

/-- A text is read to its end in more rounds than it has characters. -/
theorem read_eq (hleads : Leads read state input last [])
    (hend : ∀ fuel, read (fuel + 1) last [] = some last) :
    read (input.length + 1) state input = some last := by
  obtain ⟨rounds, hlength, hread⟩ := hleads
  obtain ⟨fuel, hfuel⟩ := Nat.exists_eq_add_of_le' hlength
  rw [show input.length + 1 = fuel + 1 + rounds by rw [hfuel, List.length_nil]; omega, hread]
  exact hend fuel

end Leads

end Patternwork
