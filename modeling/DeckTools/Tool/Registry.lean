import DeckTools.Tool.Comment
import DeckTools.Tool.Deck
import DeckTools.Tool.File
import DeckTools.Tool.Image
import DeckTools.Tool.Text

/-!
# The registry of tools

Tools are kept under their names, in the order of the names.  Registering a name
again replaces its tool.
-/

namespace DeckTools

/-- Tools in the order of their names, each under its own name. -/
structure Registry where
  tools : List (String × Tool)
  sorted : Keyed.Sorted tools
  named : forall entry, entry ∈ tools -> entry.2.name = entry.1

namespace Registry

def empty : Registry where
  tools := []
  sorted := Keyed.sorted_nil
  named := fun _ hentry => absurd hentry List.not_mem_nil

def register (registry : Registry) (tool : Tool) : Registry where
  tools := Keyed.insert tool.name tool registry.tools
  sorted := Keyed.sorted_insert registry.sorted
  named := by
    intro entry hentry
    rcases Keyed.mem_of_mem_insert hentry with heq | hold
    · rw [heq]
    · exact registry.named entry hold

def registerAll (registry : Registry) (tools : List Tool) : Registry :=
  tools.foldl register registry

def get? (registry : Registry) (name : String) : Option Tool :=
  Keyed.find? name registry.tools

def has (registry : Registry) (name : String) : Bool :=
  (registry.get? name).isSome

def names (registry : Registry) : List String :=
  Keyed.keys registry.tools

def all (registry : Registry) : List Tool :=
  registry.tools.map Prod.snd

def schemas (registry : Registry) : List Json :=
  registry.all.map Tool.schema

def run (registry : Registry) (name : String) (job : Job) (params : Json) : Run Json :=
  match registry.get? name with
  | some tool => tool.run job params
  | none =>
      .fail { kind := .invalidParameters, detail := "unknown tool '" ++ name ++ "'" }

end Registry

def Tool.all (settings : ToolSettings) : List Tool :=
  [Tool.addImage, Tool.replaceImage, Tool.modifyImage, Tool.modifyVideo, Tool.deleteObjects,
    Tool.createPresentation, Tool.copyPresentation, Tool.exportPdf settings.exportMaxBytes,
    Tool.searchText settings.searchContext, Tool.translate, Tool.listComments,
    Tool.setTransition]

end DeckTools
