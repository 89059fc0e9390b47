import DeckTools.Proofs.Json.Fields
import Mathlib.Data.List.Nodup

/-!
# What records do not read

A record looks for its fields by their names.  A member of another name is not read, and null
stands for an optional field that is absent.  So it makes no difference to a decoder whether
such a member is there, also inside the value of a field: what is read stays the same, and so
does the fault that is reported first, since the members keep their order.
-/

namespace DeckTools

/-! ## Layouts -/

/-- A field of a record, with what is known of its value. -/
structure FieldLayout (L : Type) where
  name : String
  optional : Bool
  layout : L

/-- What is known of a value: it is a record of fields, or nothing. -/
inductive Layout where
  | value
  | record (fields : List (FieldLayout Layout))

namespace FieldLayout

/-- A field that has to be given, or has a default other than null. -/
def plain (name : String) (layout : Layout) : FieldLayout Layout :=
  { name, optional := false, layout }

/-- A field for which null may be given, and means the same as nothing. -/
def maybe (name : String) (layout : Layout) : FieldLayout Layout :=
  { name, optional := true, layout }

end FieldLayout

/--
The second value is the first with one more member, at the top or inside: it has any value and
a name that no field has, or it is null and its name that of an optional field that was absent.
-/
inductive AddsMember : Layout -> Json -> Json -> Prop where
  | unknown {fields : List (FieldLayout Layout)} {front back : List (String × Json)}
      {key : String} {value : Json} (h : forall field, field ∈ fields -> field.name ≠ key) :
      AddsMember (.record fields) (.obj (front ++ back)) (.obj (front ++ (key, value) :: back))
  | null {fields : List (FieldLayout Layout)} {front back : List (String × Json)}
      {field : FieldLayout Layout} (hfield : field ∈ fields) (hoptional : field.optional = true)
      (habsent : field.name ∉ Keyed.keys (front ++ back)) :
      AddsMember (.record fields) (.obj (front ++ back))
        (.obj (front ++ (field.name, .null) :: back))
  | member {fields : List (FieldLayout Layout)} {front back : List (String × Json)}
      {field : FieldLayout Layout} {v w : Json} (hfield : field ∈ fields)
      (h : AddsMember field.layout v w) :
      AddsMember (.record fields) (.obj (front ++ (field.name, v) :: back))
        (.obj (front ++ (field.name, w) :: back))
  | item {before after : List (FieldLayout Layout)} {field : FieldLayout Layout}
      {front back : List Json} {v w : Json} (hlength : front.length = before.length)
      (h : AddsMember field.layout v w) :
      AddsMember (.record (before ++ field :: after)) (.arr (front ++ v :: back))
        (.arr (front ++ w :: back))

/-- An addition makes no difference to the decoder. -/
def Decoder.Follows {α : Type} (decode : Decoder α) (layout : Layout) : Prop :=
  forall v w, AddsMember layout v w -> decode w = decode v

theorem Decoder.Follows.value {α : Type} (decode : Decoder α) : decode.Follows .value := by
  intro v w h
  cases h

/-- No addition is made to null. -/
theorem Decoder.Follows.nullable {α : Type} {decode : Decoder α} {layout : Layout}
    (h : decode.Follows layout) :
    (Decoder.nullable decode).Follows layout := by
  intro v w hadds
  have hsame := congrArg (Except.map some) (h v w hadds)
  cases hadds <;> exact hsame

namespace Fields

variable {α β : Type} {fields others more : List (FieldLayout Layout)}

/-! ## Positions -/

/-- The position of a member once there is another one at `place`. -/
def shift (place position : Nat) : Nat :=
  if position < place then position else position + 1

theorem shift_lt_shift_iff {place a b : Nat} : shift place a < shift place b <-> a < b := by
  unfold shift
  split <;> split <;> omega

/-- The fault moves with its member. -/
def shiftFault (place : Nat) (fault : Nat × DecodeError) : Nat × DecodeError :=
  (shift place fault.1, fault.2)

theorem earlier_shiftFault (place : Nat) (a b : Nat × DecodeError) :
    earlier (shiftFault place a) (shiftFault place b) = shiftFault place (earlier a b) := by
  unfold earlier
  by_cases h : b.1 < a.1
  · rw [if_pos h]
    exact if_pos (shift_lt_shift_iff.mpr h)
  · rw [if_neg h]
    exact if_neg (fun hlt => h (shift_lt_shift_iff.mp hlt))

/-- A member of another name only moves those that come after it. -/
theorem occurrences_add {name key : String} (h : key ≠ name) (value : Json)
    (front back : List (String × Json)) :
    occurrences name (front ++ (key, value) :: back) =
      (occurrences name (front ++ back)).map
        (fun found => (shift front.length found.1, found.2)) := by
  have hfront : (occurrences name front).map
      (fun found => (shift front.length found.1, found.2)) = occurrences name front := by
    refine (List.map_congr_left ?_).trans (List.map_id _)
    intro found hfound
    unfold shift
    rw [if_pos (position_lt_of_mem_occurrences hfound)]
    rfl
  have hback (position : Nat) :
      shift front.length (front.length + position) = front.length + (1 + position) := by
    unfold shift
    rw [if_neg (by omega)]
    omega
  have hname : (key == name) = false := beq_eq_false_iff_ne.mpr h
  rw [occurrences_append, occurrences_append, occurrences_cons, hname]
  simp [Function.comp_def, hfront, hback]

/-! ## Fields that follow a layout -/

/-- The member is not among the fields, or null for optional fields that are absent. -/
def Spare (fields : List (FieldLayout Layout)) (key : String) (value : Json)
    (members : List (String × Json)) : Prop :=
  forall field, field ∈ fields -> field.name = key ->
    field.optional = true ∧ value = .null ∧ key ∉ Keyed.keys members

/-- Items in a row, with additions in those that stand for fields. -/
def Agree : List (FieldLayout Layout) -> List Json -> List Json -> Prop
  | field :: fields, v :: items, w :: items' =>
      (v = w ∨ AddsMember field.layout v w) ∧ Agree fields items items'
  | _, items, items' => items = items'

/-- Two readings of items give the same, and leave items that agree. -/
def SameReading (more : List (FieldLayout Layout)) :
    Except ItemFault (α × List Json) -> Except ItemFault (α × List Json) -> Prop
  | .ok (a, items), .ok (b, items') => a = b ∧ Agree more items items'
  | .error e, .error e' => e = e'
  | _, _ => False

/-- The fields are those of the layout, in its order, and no addition makes a difference. -/
structure Follows (f : Fields α) (fields : List (FieldLayout Layout)) : Prop where
  added :
    forall front back key value, Spare fields key value (front ++ back) ->
      f.ofMembers (front ++ (key, value) :: back) =
        (f.ofMembers (front ++ back)).mapError (shiftFault front.length)
  changed :
    forall front back key v w,
      (forall field, field ∈ fields -> field.name = key -> AddsMember field.layout v w) ->
        f.ofMembers (front ++ (key, w) :: back) = f.ofMembers (front ++ (key, v) :: back)
  items :
    forall index more items items', Agree (fields ++ more) items items' ->
      SameReading more (f.ofItems index items) (f.ofItems index items')

theorem Agree.refl (fields : List (FieldLayout Layout)) (items : List Json) :
    Agree fields items items := by
  induction fields generalizing items with
  | nil => rfl
  | cons field fields ih =>
      cases items with
      | nil => rfl
      | cons v items => exact ⟨Or.inl rfl, ih items⟩

theorem SameReading.bind {read read' : Except ItemFault (α × List Json)}
    {next : α × List Json -> Except ItemFault (β × List Json)}
    (h : SameReading others read read')
    (hnext : forall a items items', Agree others items items' ->
      SameReading more (next (a, items)) (next (a, items'))) :
    SameReading more (read >>= next) (read' >>= next) := by
  cases read with
  | error e =>
      cases read' with
      | error e' => exact h
      | ok read' => cases h
  | ok read =>
      cases read' with
      | error e' => cases h
      | ok read' =>
          rcases read with ⟨a, items⟩
          rcases read' with ⟨b, items'⟩
          cases h.1
          exact hnext a items items' h.2

/-- Where no field is left the items that are left are the same. -/
theorem SameReading.eq_of_nil {read read' : Except ItemFault (α × List Json)}
    (h : SameReading [] read read') :
    read = read' := by
  cases read with
  | error e =>
      cases read' with
      | error e' => exact congrArg Except.error h
      | ok read' => cases h
  | ok read =>
      cases read' with
      | error e' => cases h
      | ok read' => exact congrArg Except.ok (Prod.ext h.1 h.2)

theorem agree_item {before after : List (FieldLayout Layout)} {field : FieldLayout Layout}
    {front : List Json} {v w : Json} (hlength : front.length = before.length)
    (h : AddsMember field.layout v w) (back : List Json) :
    Agree (before ++ field :: after) (front ++ v :: back) (front ++ w :: back) := by
  induction before generalizing front with
  | nil =>
      rw [List.length_eq_zero_iff.mp hlength]
      exact ⟨Or.inr h, Agree.refl after back⟩
  | cons first before ih =>
      cases front with
      | nil => cases hlength
      | cons item front => exact ⟨Or.inl rfl, ih (Nat.succ.inj hlength)⟩

namespace Follows

theorem given (a : α) : (pure a : Fields α).Follows [] where
  added := by
    intro front back key value _
    rfl
  changed := by
    intro front back key v w _
    rfl
  items := by
    intro index more items items' hagree
    exact ⟨rfl, hagree⟩

theorem seq {f : Fields (α -> β)} {x : Fields α} (hf : f.Follows fields)
    (hx : x.Follows others) :
    (f <*> x).Follows (fields ++ others) where
  added := by
    intro front back key value hspare
    have hfields := hf.added front back key value
      (fun field hfield => hspare field (List.mem_append_left others hfield))
    have hothers := hx.added front back key value
      (fun field hfield => hspare field (List.mem_append_right fields hfield))
    show (f.and x).ofMembers _ = ((f.and x).ofMembers _).mapError _
    unfold Fields.and
    dsimp only
    rw [hfields, hothers]
    cases f.ofMembers (front ++ back) with
    | ok g => cases x.ofMembers (front ++ back) <;> rfl
    | error e =>
        cases x.ofMembers (front ++ back) with
        | ok a => rfl
        | error e' => exact congrArg Except.error (earlier_shiftFault front.length e e')
  changed := by
    intro front back key v w hadds
    have hfields := hf.changed front back key v w
      (fun field hfield => hadds field (List.mem_append_left others hfield))
    have hothers := hx.changed front back key v w
      (fun field hfield => hadds field (List.mem_append_right fields hfield))
    show (f.and x).ofMembers _ = (f.and x).ofMembers _
    unfold Fields.and
    dsimp only
    rw [hfields, hothers]
  items := by
    intro index more items items' hagree
    rw [List.append_assoc] at hagree
    have hfirst := hf.items index (others ++ more) items items' hagree
    show SameReading more ((f.and x).ofItems index items) ((f.and x).ofItems index items')
    unfold Fields.and
    dsimp only
    apply hfirst.bind
    intro g rest rest' hrest
    apply (hx.items (index + f.count) more rest rest' hrest).bind
    intro a last last' hlast
    exact ⟨rfl, hlast⟩

theorem map {x : Fields α} (hx : x.Follows fields) (g : α -> β) :
    (g <$> x).Follows fields :=
  (given g).seq hx

end Follows

/-! ## One field -/

/-- What a field reads in an object of so many members, from those of its name. -/
def readFound (name : String) (decode : Decoder α) (absent : Option α) (length : Nat) :
    List (Nat × Json) -> Except (Nat × DecodeError) α
  | [] =>
      match absent with
      | some a => .ok a
      | none => .error (length, .missingField name)
  | (position, value) :: others =>
      match decode value, others with
      | .error e, _ => .error (position, e)
      | .ok a, [] => .ok a
      | .ok _, (again, _) :: _ => .error (again, .duplicateField name)

section OneField

variable {name : String} {decode : Decoder α} {absent inArray : Option α}

theorem ofMembers_field (members : List (String × Json)) :
    (field name decode absent inArray).ofMembers members =
      readFound name decode absent members.length (occurrences name members) := by
  unfold field
  dsimp only
  cases occurrences name members <;> rfl

theorem readFound_shift {place length : Nat} (hplace : place ≤ length)
    (found : List (Nat × Json)) :
    readFound name decode absent (length + 1)
        (found.map (fun found => (shift place found.1, found.2))) =
      (readFound name decode absent length found).mapError (shiftFault place) := by
  cases found with
  | nil =>
      cases absent with
      | some a => rfl
      | none =>
          have hshift : shift place length = length + 1 := if_neg (Nat.not_lt.mpr hplace)
          show Except.error _ = Except.error (shift place length, _)
          rw [hshift]
  | cons first others =>
      unfold readFound
      rw [List.map_cons]
      dsimp only
      cases decode first.2 with
      | error e => rfl
      | ok a => cases others <;> rfl

/-- Of all that was found only the first value is read. -/
theorem readFound_changed {v w : Json} (h : decode w = decode v) (length position : Nat)
    (before after : List (Nat × Json)) :
    readFound name decode absent length (before ++ (position, w) :: after) =
      readFound name decode absent length (before ++ (position, v) :: after) := by
  cases before with
  | nil =>
      unfold readFound
      rw [List.nil_append, List.nil_append]
      dsimp only
      rw [h]
  | cons first before =>
      unfold readFound
      rw [List.cons_append, List.cons_append]
      dsimp only
      cases decode first.2 with
      | error e => rfl
      | ok a => cases before <;> rfl

theorem occurrences_eq_nil {members : List (String × Json)} (h : name ∉ Keyed.keys members) :
    occurrences name members = [] := by
  apply List.filterMap_eq_nil_iff.mpr
  intro member hmember
  apply if_neg
  intro hname
  apply h
  rw [← eq_of_beq hname]
  exact List.mem_map_of_mem (List.fst_mem_of_mem_zipIdx hmember)

theorem Follows.field {layout : Layout} {optional : Bool} (hdecode : decode.Follows layout)
    (hoptional : optional = true -> exists a, decode .null = .ok a ∧ absent = some a) :
    (Fields.field name decode absent inArray).Follows [{ name, optional, layout }] where
  added := by
    intro front back key value hspare
    have hlength : (front ++ (key, value) :: back).length = (front ++ back).length + 1 := by
      simp only [List.length_append, List.length_cons]
      omega
    have hplace : front.length ≤ (front ++ back).length := by
      rw [List.length_append]
      omega
    rw [ofMembers_field, ofMembers_field, hlength]
    by_cases hkey : key = name
    · -- The field was absent, and null stands for that.
      rcases hspare _ List.mem_cons_self hkey.symm with ⟨hopt, rfl, habsent⟩
      rcases hoptional hopt with ⟨a, hnull, rfl⟩
      rw [hkey] at habsent ⊢
      have hnone := occurrences_eq_nil habsent
      have hparts := hnone
      rw [occurrences_append, List.append_eq_nil_iff, List.map_eq_nil_iff] at hparts
      rw [hnone, occurrences_append, occurrences_cons, hparts.1, hparts.2, beq_self_eq_true]
      have hread : readFound name decode (some a) ((front ++ back).length + 1)
          [(front.length, .null)] = .ok a := by
        unfold readFound
        dsimp only
        rw [hnull]
      exact hread
    · rw [occurrences_add hkey]
      exact readFound_shift hplace _
  changed := by
    intro front back key v w hadds
    have hlength : (front ++ (key, w) :: back).length = (front ++ (key, v) :: back).length := by
      simp only [List.length_append, List.length_cons]
    rw [ofMembers_field, ofMembers_field, hlength, occurrences_append, occurrences_append,
      occurrences_cons, occurrences_cons]
    by_cases hkey : key = name
    · have hsame := hdecode v w (hadds _ List.mem_cons_self hkey.symm)
      rw [hkey, beq_self_eq_true]
      exact readFound_changed hsame _ _ _ _
    · rw [if_neg (by simpa using hkey), if_neg (by simpa using hkey)]
  items := by
    intro index more items items' hagree
    cases items with
    | nil =>
        cases items' with
        | nil =>
            cases inArray with
            | none => exact rfl
            | some a => exact ⟨rfl, Agree.refl more []⟩
        | cons w items' => cases hagree
    | cons v items =>
        cases items' with
        | nil => cases hagree
        | cons w items' =>
            have hsame : decode w = decode v := by
              rcases hagree.1 with rfl | hadds
              · rfl
              · exact hdecode v w hadds
            unfold Fields.field
            dsimp only
            rw [hsame]
            cases decode v with
            | error e => exact rfl
            | ok a => exact ⟨rfl, hagree.2⟩

end OneField

namespace Follows

variable {layout : Layout} {decode : Decoder α}

theorem required (name : String) (h : decode.Follows layout) :
    (Fields.required name decode).Follows [.plain name layout] :=
  field h nofun

theorem withDefault (name : String) (h : decode.Follows layout) (default : α) :
    (Fields.withDefault name decode default).Follows [.plain name layout] :=
  field h nofun

theorem optional (name : String) (h : decode.Follows layout) :
    (Fields.optional name decode).Follows [.maybe name layout] :=
  field h.nullable (fun _ => ⟨none, rfl, rfl⟩)

end Follows

end Fields

/-! ## Records -/

theorem Decoder.follows_record {α : Type} {name : String} {f : Fields α}
    {fields : List (FieldLayout Layout)} (hnames : (fields.map FieldLayout.name).Nodup)
    (h : f.Follows fields) :
    (Decoder.record name f).Follows (.record fields) := by
  have hunique {a b : FieldLayout Layout} (ha : a ∈ fields) (hb : b ∈ fields)
      (hname : a.name = b.name) : a = b :=
    List.inj_on_of_nodup_map hnames ha hb hname
  intro v w hadds
  cases hadds with
  | unknown hkey =>
      rename_i front back key value
      have hspare : Fields.Spare fields key value (front ++ back) :=
        fun field hfield hname => absurd hname (hkey field hfield)
      unfold Decoder.record
      dsimp only
      rw [h.added front back key value hspare]
      cases f.ofMembers (front ++ back) <;> rfl
  | null hfield hoptional habsent =>
      rename_i front back field
      have hspare : Fields.Spare fields field.name .null (front ++ back) := by
        intro other hother hname
        rw [hunique hother hfield hname]
        exact ⟨hoptional, rfl, habsent⟩
      unfold Decoder.record
      dsimp only
      rw [h.added front back field.name .null hspare]
      cases f.ofMembers (front ++ back) <;> rfl
  | member hfield hadds =>
      rename_i front back field v w
      unfold Decoder.record
      dsimp only
      rw [h.changed front back field.name v w]
      intro other hother hname
      rwa [hunique hother hfield hname]
  | item hlength hadds =>
      rename_i before after field front back v w
      have hagree : Fields.Agree (before ++ field :: after ++ [])
          (front ++ v :: back) (front ++ w :: back) := by
        rw [List.append_nil]
        exact Fields.agree_item hlength hadds back
      have hcount : (front ++ w :: back).length = (front ++ v :: back).length := by
        simp only [List.length_append, List.length_cons]
      unfold Decoder.record
      dsimp only
      rw [hcount, (h.items 0 [] _ _ hagree).eq_of_nil]

end DeckTools
