import DeckTools.Proofs.Json.Canonical
import DeckTools.Tool.Registry

/-!
# What a registry shows

A registry is looked at by name, as a list of names, as a list of tools and as a list of
schemas.  A registration keeps the names in order, puts the tool under its own name, and
from then on that tool is the one of its name.  So after any registrations, of the same
name again and again if need be, the views agree and show the last tool of each name.
-/

namespace DeckTools

namespace Registry

variable {registry : Registry} {registered : List Tool} {name : String}

/-! ## One registration after the other -/

/-- The tool that is registered last under a name. -/
def lastNamed (name : String) (registered : List Tool) : Option Tool :=
  (registered.filter (fun tool => tool.name == name)).getLast?

theorem lastNamed_append_singleton (tool : Tool) :
    lastNamed name (registered ++ [tool]) =
      if tool.name = name then some tool else lastNamed name registered := by
  unfold lastNamed
  rw [List.filter_append, List.filter_cons, List.filter_nil]
  by_cases h : tool.name = name
  · rw [if_pos h, if_pos (beq_iff_eq.mpr h), List.getLast?_concat]
  · rw [if_neg h, if_neg (mt beq_iff_eq.mp h), List.append_nil]

theorem isSome_lastNamed_iff :
    (lastNamed name registered).isSome = true <->
      exists tool, tool ∈ registered ∧ tool.name = name := by
  unfold lastNamed
  rw [List.getLast?_isSome, Ne, List.filter_eq_nil_iff]
  simp

theorem get?_register (registry : Registry) (tool : Tool) (name : String) :
    (registry.register tool).get? name =
      if tool.name = name then some tool else registry.get? name := by
  show Keyed.find? name (Keyed.insert tool.name tool registry.tools) = _
  by_cases hname : tool.name = name
  · rw [if_pos hname, ← hname, Keyed.find?_insert_self]
  · rw [if_neg hname, Keyed.find?_insert_of_ne tool registry.tools (Ne.symm hname)]
    rfl

theorem get?_registerAll (h : forall name, registry.get? name = lastNamed name registered)
    (tools : List Tool) (name : String) :
    (registry.registerAll tools).get? name = lastNamed name (registered ++ tools) := by
  induction tools generalizing registry registered with
  | nil => rw [List.append_nil, registerAll, List.foldl_nil, h]
  | cons tool rest ih =>
      have hstep : forall name,
          (registry.register tool).get? name = lastNamed name (registered ++ [tool]) := by
        intro name
        rw [get?_register, lastNamed_append_singleton, h]
      have hrest := ih hstep
      rw [List.append_assoc] at hrest
      exact hrest

/-! ## The views -/

theorem mem_names_iff :
    name ∈ registry.names <-> (registry.get? name).isSome = true :=
  Keyed.isSome_find?_iff.symm

theorem map_name_all (registry : Registry) : registry.all.map Tool.name = registry.names := by
  unfold all names Keyed.keys
  rw [List.map_map]
  exact List.map_congr_left registry.named

theorem mem_all_iff {tool : Tool} :
    tool ∈ registry.all <-> registry.get? tool.name = some tool := by
  unfold all get?
  rw [Keyed.find?_eq_some_iff registry.sorted, List.mem_map]
  constructor
  · intro hmem
    rcases hmem with ⟨entry, hentry, rfl⟩
    rw [registry.named entry hentry]
    exact hentry
  · intro hmem
    exact ⟨(tool.name, tool), hmem, rfl⟩

theorem map_some_schemas (registry : Registry) :
    registry.schemas.map some =
      registry.names.map (fun name => (registry.get? name).map Tool.schema) := by
  rw [← registry.map_name_all]
  unfold schemas
  rw [List.map_map, List.map_map]
  apply List.map_congr_left
  intro tool htool
  have hget := mem_all_iff.mp htool
  simp only [Function.comp_apply, hget, Option.map_some]

/-- Every view of the registry shows the tools registered, for each name the last one. -/
structure Shows (registry : Registry) (registered : List Tool) : Prop where
  last : forall name, registry.get? name = lastNamed name registered
  has : forall name, registry.has name = true <-> exists tool, registry.get? name = some tool
  increasing : registry.names.Pairwise (· < ·)
  names :
    forall name, name ∈ registry.names <-> exists tool, tool ∈ registered ∧ tool.name = name
  onePerName : (registry.all.map Tool.name).Perm registry.names
  current : forall tool, tool ∈ registry.all <-> registry.get? tool.name = some tool
  schemas :
    registry.schemas.map some =
      registry.names.map (fun name => (registry.get? name).map Tool.schema)

/-- After any registrations the views of a registry agree on the last tool of each name. -/
theorem registerAll_shows (registered : List Tool) :
    (empty.registerAll registered).Shows registered := by
  have hempty : forall name, empty.get? name = lastNamed name [] := fun _ => rfl
  have hlast := get?_registerAll hempty registered
  simp only [List.nil_append] at hlast
  exact
    { last := hlast
      has := fun _ => Option.isSome_iff_exists
      increasing := sorted _
      names := fun name => by rw [mem_names_iff, hlast name, isSome_lastNamed_iff]
      onePerName := map_name_all _ ▸ List.Perm.refl _
      current := fun _ => mem_all_iff
      schemas := map_some_schemas _ }

example :
    (empty.registerAll (Tool.all { exportMaxBytes := 0, searchContext := 0 })).names =
      ["add_image", "copy_presentation", "create_presentation", "delete_objects", "export_pdf",
        "list_comments", "modify_image", "modify_video", "replace_image", "search_text",
        "set_transition", "translate_presentation"] := by decide +kernel

end Registry

end DeckTools
