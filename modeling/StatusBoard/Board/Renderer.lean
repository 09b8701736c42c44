import StatusBoard.Html.Node
import StatusBoard.Board.Entry

/-!
Renderers turn services and entries into markup. A renderer works in a monad, so that what is said
of a board holds for each renderer's effects too; the plain ones have none.
-/
namespace StatusBoard

/-- Markup for the API list of a service and for a whole entry. -/
structure Renderer (m : Type → Type) where
  apis : Service → m String
  entry : Entry → m String

/-- The ids of an entry's elements. -/
structure ElementIds where
  item : String
  statusIcon : String
  totalInstances : String
  healthyInstances : String
  unhealthyInstances : String
deriving DecidableEq, Repr

namespace ElementIds

/-- Ids are made of the service's name, so that they differ between services. -/
def ofName (name : String) : ElementIds where
  item := name ++ "_service_item"
  statusIcon := name ++ "_service_status_icon"
  totalInstances := name ++ "_total_instances_count"
  healthyInstances := name ++ "_healthy_instances_count"
  unhealthyInstances := name ++ "_unhealthy_instances_count"

end ElementIds

namespace Markup

open Html (Node)

def icon (name : String) : Node :=
  .element "i" [("class", "small material-icons")] [.text name]

/-- One request method of an API. -/
def chip (api : Api) (method : String) : Node :=
  .element "span" [("class", "chip")]
    ([icon (if api.secured then "lock" else "lock_open"), .text " "] ++
      (if api.async then [icon "swap_vert", .text " "] else []) ++ [.text method])

/-- One API of a service: a chip for each method, then its path. -/
def api (service : String) (a : Api) : Node :=
  .element "li" [("class", "api-collapsible")]
    [.element "a" [("href", "#!")]
      (a.methods.map (chip a) ++
        [.element "span" [] [.text (" /apis/" ++ service ++ "/" ++ a.path)]])]

/-- The API list of a service. -/
def apis (service : String) (as : List Api) : List Node :=
  as.map (api service)

/-- An instance count of an entry. -/
def countChip (id label : String) : Node :=
  .element "span" [("class", "chip"), ("id", id)] [.text label]

/-- A whole entry around its API list. -/
def entry (e : Entry) (apiList : List Node) : Node :=
  let ids := ElementIds.ofName e.name
  .element "li" [("id", ids.item)]
    [.element "div" [("class", "collapsible-header")]
      [.element "div" [("class", "api-collapsible")]
        [.element "i"
          [("class", "material-icons circle " ++ e.indicator.word ++ " service-status-icon"),
            ("id", ids.statusIcon)] [],
          .element "span" [("class", "service-status-icon title")] [.text e.name],
          .element "p" []
            [.element "i" [("class", "small material-icons")] [.text "http"],
              countChip ids.totalInstances e.instancesLabel,
              countChip ids.healthyInstances e.healthyLabel,
              countChip ids.unhealthyInstances e.unhealthyLabel]]],
      .element "div" [("class", "collapsible-body light-blue lighten-5")]
        [.element "ul" [] apiList]]

end Markup

namespace Renderer

variable {m : Type → Type}

/-- Collapsible HTML lists. The API list of an entry is the one written when it was created. -/
def html [Monad m] : Renderer m where
  apis s := pure (Html.Node.markup (Markup.apis s.name s.apis))
  entry e := pure (Html.Node.markup [Markup.entry e [.raw e.apiMarkup]])

/-- Short outlines: the name of a service with the number of its APIs, and entries in angle
brackets. -/
def outline [Monad m] : Renderer m where
  apis s := pure s!"{s.name}*{s.apis.length}"
  entry e := pure s!"<{e.name}|{e.apiMarkup}>"

/-- A call of a renderer, with what it is called for. -/
inductive Call where
  | apis (s : Service)
  | entry (e : Entry)
deriving DecidableEq, Repr

/-- A renderer that notes its calls, the first one first. -/
def recorded [Monad m] (r : Renderer m) : Renderer (StateT (List Call) m) where
  apis s := do
    modify (· ++ [.apis s])
    r.apis s
  entry e := do
    modify (· ++ [.entry e])
    r.entry e

namespace Call

def text : Call → String
  | .apis s => "apis:" ++ s.name
  | .entry e => "entry:" ++ e.name

end Call

end Renderer

end StatusBoard
