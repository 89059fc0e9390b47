import DeckTools.Json.Decode
import DeckTools.Proofs.Edit.Checked
import DeckTools.Proofs.Json.Canonical

/-!
# What fields read

Fields that are put together read what each of them reads.  A table in key order holds a
member once or not at all, so a field reads the member of its name, or else is absent.
-/

namespace DeckTools

namespace Fields

variable {α β : Type} {name : String} {members : List (String × Json)} {value : Json}
  {decode : Decoder α} {absent inArray : Option α} {a : α} {b : β}

/-! ## Fields put together -/

theorem ofMembers_seq_eq_ok {f : Fields (α -> β)} {x : Fields α} :
    (f <*> x).ofMembers members = .ok b <->
      exists g, f.ofMembers members = .ok g ∧
        exists a, x.ofMembers members = .ok a ∧ g a = b := by
  have hand : (f <*> x) = f.and x := rfl
  rw [hand, Fields.and]
  dsimp only
  cases f.ofMembers members with
  | error e => cases x.ofMembers members <;> simp
  | ok g => cases x.ofMembers members <;> simp

theorem ofMembers_map_eq_ok {g : α -> β} {x : Fields α} :
    (g <$> x).ofMembers members = .ok b <->
      exists a, x.ofMembers members = .ok a ∧ g a = b := by
  have hseq : (g <$> x) = (pure g <*> x : Fields β) := rfl
  have hpure : (pure g : Fields (α -> β)).ofMembers members = .ok g := rfl
  rw [hseq, ofMembers_seq_eq_ok, hpure]
  simp

theorem record_obj_eq_ok {fields : Fields α} :
    Decoder.record name fields (.obj members) = .ok a <-> fields.ofMembers members = .ok a := by
  unfold Decoder.record
  dsimp only
  cases fields.ofMembers members with
  | error e => simp
  | ok read => simp

/-! ## One field -/

theorem occurrences_append (name : String) (front back : List (String × Json)) :
    occurrences name (front ++ back) =
      occurrences name front ++
        (occurrences name back).map (fun found => (front.length + found.1, found.2)) := by
  unfold occurrences
  rw [List.zipIdx_append, List.filterMap_append, Nat.zero_add,
    List.zipIdx_eq_map_add (l := back) (i := front.length), List.filterMap_map,
    List.map_filterMap]
  congr 2
  funext member
  simp only [Function.comp_apply]
  split <;> rfl

theorem occurrences_cons (name : String) (member : String × Json)
    (rest : List (String × Json)) :
    occurrences name (member :: rest) =
      (if member.1 == name then [(0, member.2)] else []) ++
        (occurrences name rest).map (fun found => (1 + found.1, found.2)) := by
  have hfirst : occurrences name [member] =
      if member.1 == name then [(0, member.2)] else [] := by
    unfold occurrences
    rw [List.zipIdx_singleton, List.filterMap_cons]
    cases member.1 == name <;> rfl
  rw [← List.singleton_append, occurrences_append, hfirst]
  rfl

theorem position_lt_of_mem_occurrences {name : String} {members : List (String × Json)}
    {found : Nat × Json} (h : found ∈ occurrences name members) :
    found.1 < members.length := by
  unfold occurrences at h
  rcases List.mem_filterMap.mp h with ⟨member, hmember, heq⟩
  have hlt := List.snd_lt_of_mem_zipIdx hmember
  split at heq
  case isTrue =>
      cases heq
      simpa using hlt
  case isFalse => cases heq

theorem map_snd_occurrences (name : String) (members : List (String × Json)) :
    (occurrences name members).map Prod.snd =
      (members.filter (fun member => member.1 == name)).map Prod.snd := by
  induction members with
  | nil => rfl
  | cons first rest ih =>
      have hsnd : Prod.snd ∘ (fun found : Nat × Json => (1 + found.1, found.2)) = Prod.snd := rfl
      rw [occurrences_cons, List.map_append, List.map_map, hsnd, ih, List.filter_cons]
      cases first.1 == name <;> rfl

theorem find?_eq_head? (name : String) (members : List (String × Json)) :
    Keyed.find? name members = ((occurrences name members).map Prod.snd).head? := by
  rw [map_snd_occurrences, List.head?_map, List.head?_filter]
  rfl

theorem length_occurrences_le_one (name : String) (h : Keyed.Sorted members) :
    (occurrences name members).length ≤ 1 := by
  have hlength := congrArg List.length (map_snd_occurrences name members)
  rw [List.length_map, List.length_map] at hlength
  rw [hlength]
  clear hlength
  induction members with
  | nil => exact Nat.zero_le 1
  | cons first rest ih =>
      rcases Keyed.sorted_cons.mp h with ⟨hfirst, hrest⟩
      rw [List.filter_cons]
      split
      case isTrue hname =>
          have hnone : rest.filter (fun member => member.1 == name) = [] := by
            apply List.filter_eq_nil_iff.mpr
            intro other hother hsame
            have hlt := hfirst other hother
            rw [eq_of_beq hname, eq_of_beq hsame] at hlt
            exact String.lt_irrefl name hlt
          rw [hnone]
          exact Nat.le_refl 1
      case isFalse => exact ih hrest

theorem ofMembers_field_of_missing (h : Keyed.find? name members = none) :
    (field name decode absent inArray).ofMembers members = .ok a <-> absent = some a := by
  rw [find?_eq_head?, List.head?_eq_none_iff, List.map_eq_nil_iff] at h
  unfold field
  dsimp only
  rw [h]
  cases absent <;> simp

/-- What a field reads is in the first member of its name. -/
theorem decode_of_ofMembers_field (h : Keyed.find? name members = some value)
    (hread : (field name decode absent inArray).ofMembers members = .ok a) :
    decode value = .ok a := by
  rw [find?_eq_head?] at h
  unfold field at hread
  dsimp only at hread
  cases hfound : occurrences name members with
  | nil =>
      rw [hfound] at h
      cases h
  | cons first others =>
      rw [hfound] at h hread
      cases h
      dsimp only at hread
      cases hdecode : decode first.2 with
      | error e =>
          rw [hdecode] at hread
          cases hread
      | ok read =>
          rw [hdecode] at hread
          cases others with
          | nil =>
              cases hread
              rfl
          | cons second more => cases hread

theorem ofMembers_field_of_find? (hsorted : Keyed.Sorted members)
    (h : Keyed.find? name members = some value) :
    (field name decode absent inArray).ofMembers members = .ok a <-> decode value = .ok a := by
  constructor
  · exact decode_of_ofMembers_field h
  · intro hdecode
    rw [find?_eq_head?] at h
    have hone := length_occurrences_le_one name hsorted
    unfold field
    dsimp only
    cases hfound : occurrences name members with
    | nil =>
        rw [hfound] at h
        cases h
    | cons first others =>
        rw [hfound] at h hone
        cases h
        dsimp only
        rw [hdecode]
        cases others with
        | nil => rfl
        | cons second more => simp at hone

/-! ## Fields that read one value -/

/-- The fields read that value and no other if it is sound, and else read nothing. -/
def Reads (fields : Fields α) (members : List (String × Json)) (sound : Prop) (a : α) : Prop :=
  forall b, fields.ofMembers members = .ok b <-> sound ∧ a = b

namespace Reads

variable {sound others : Prop}

theorem seq {f : Fields (α -> β)} {x : Fields α} {g : α -> β} (hf : f.Reads members sound g)
    (hx : x.Reads members others a) :
    (f <*> x).Reads members (sound ∧ others) (g a) := by
  intro b
  rw [ofMembers_seq_eq_ok]
  constructor
  · intro h
    rcases h with ⟨g', hg, a', ha, heq⟩
    rcases (hf g').mp hg with ⟨hsound, rfl⟩
    rcases (hx a').mp ha with ⟨hothers, rfl⟩
    exact ⟨⟨hsound, hothers⟩, heq⟩
  · intro h
    exact ⟨g, (hf g).mpr ⟨h.1.1, rfl⟩, a, (hx a).mpr ⟨h.1.2, rfl⟩, h.2⟩

theorem map {x : Fields α} (hx : x.Reads members sound a) (g : α -> β) :
    (g <$> x).Reads members sound (g a) := by
  intro b
  rw [ofMembers_map_eq_ok]
  constructor
  · intro h
    rcases h with ⟨a', ha, heq⟩
    rcases (hx a').mp ha with ⟨hsound, rfl⟩
    exact ⟨hsound, heq⟩
  · intro h
    exact ⟨a, (hx a).mpr ⟨h.1, rfl⟩, h.2⟩

theorem congr {x : Fields α} (hx : x.Reads members sound a) (h : sound <-> others) :
    x.Reads members others a := by
  intro b
  rw [hx b, h]

theorem of_found (hsorted : Keyed.Sorted members) (h : Keyed.find? name members = some value)
    (hdecode : decode value = .ok a) :
    (field name decode absent inArray).Reads members True a := by
  intro b
  rw [ofMembers_field_of_find? hsorted h, hdecode]
  simp

end Reads

end Fields

/-! ## Values read for what was written -/

/-- What is written is read as its image if it is sound, and else is not read at all. -/
def ReadsAs {α : Type} (write : α -> Json) (decode : Decoder α) (Sound : α -> Prop)
    (image : α -> α) : Prop :=
  forall a b, decode (write a) = .ok b <-> Sound a ∧ image a = b

namespace ReadsAs

variable {α : Type} {name : String} {members : List (String × Json)} {write : α -> Json}
  {decode : Decoder α} {Sound : α -> Prop} {image : α -> α}

theorem field {absent inArray : Option α} {a : α} (h : ReadsAs write decode Sound image)
    (hsorted : Keyed.Sorted members) (hfind : Keyed.find? name members = some (write a)) :
    (Fields.field name decode absent inArray).Reads members (Sound a) (image a) := by
  intro b
  rw [Fields.ofMembers_field_of_find? hsorted hfind]
  exact h a b

/-- A value that may be missing is read, so long as no value is written as null. -/
theorem nullable {inArray : Option (Option α)} {given : Option α}
    (h : ReadsAs write decode Sound image) (hnull : forall a, write a ≠ .null)
    (hsorted : Keyed.Sorted members) (hfind : Keyed.find? name members = given.map write) :
    (Fields.field name (Decoder.nullable decode) (some none) inArray).Reads members
      (forall a, given = some a -> Sound a) (given.map image) := by
  intro read
  cases given with
  | none =>
      rw [Fields.ofMembers_field_of_missing hfind]
      simp
  | some a =>
      have hnullable : Decoder.nullable decode (write a) = (decode (write a)).map some := by
        unfold Decoder.nullable
        split
        case h_1 heq => exact absurd heq (hnull a)
        case h_2 => rfl
      rw [Fields.ofMembers_field_of_find? hsorted hfind, hnullable, map_eq_ok]
      constructor
      · intro hread
        rcases hread with ⟨b, hb, heq⟩
        rcases (h a b).mp hb with ⟨hsound, rfl⟩
        refine ⟨?_, heq⟩
        intro a' ha'
        cases ha'
        exact hsound
      · intro hsound
        exact ⟨image a, (h a _).mpr ⟨hsound.1 a rfl, rfl⟩, hsound.2⟩

/-- An object is read if its fields read the value it is written for. -/
theorem of_fields {fields : Fields α} {members : α -> List (String × Json)}
    (h : forall a, fields.Reads (Keyed.ofList (members a)) (Sound a) (image a)) :
    ReadsAs (fun a => Json.object (members a)) (Decoder.record name fields) Sound image := by
  intro a b
  unfold Json.object
  rw [Fields.record_obj_eq_ok]
  exact h a b

end ReadsAs

end DeckTools
