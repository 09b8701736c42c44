import StatusBoard.Board.View

/-!
The board as an HTML page that reloads itself.
-/
namespace StatusBoard.View

open Html (Node)

/-- A text with an id, after a caption. -/
def captioned (caption id value : String) : List Node :=
  [.text caption, .element "span" [("id", id)] [.text value]]

/-- A count on a line of its own. -/
def countLine (caption id : String) (n : Nat) : List Node :=
  [.element "span" [("class", "chip")] (captioned caption id (toString n)), .text "\n"]

def stylesheet (href : String) : List Node :=
  [.void "link" [("rel", "stylesheet"), ("href", href)], .text "\n"]

def head (refreshSeconds : Nat) : Node :=
  .element "head" []
    ([.text "\n", .void "meta" [("charset", "utf-8")], .text "\n",
      .void "meta" [("http-equiv", "refresh"), ("content", toString (max refreshSeconds 1))],
      .text "\n", .element "title" [] [.text "Revolver Dashboard"], .text "\n"] ++
      stylesheet "https://fonts.googleapis.com/icon?family=Material+Icons" ++
      stylesheet
        "https://cdnjs.cloudflare.com/ajax/libs/materialize/0.97.8/css/materialize.min.css")

def totals (c : Counts) : Node :=
  .element "div" [("class", "row")]
    ([.text "\n"] ++ countLine "Services: " "total_service_count" c.total ++
      countLine "Healthy: " "total_healthy_count" c.healthy ++
      countLine "Unhealthy: " "total_unhealthy_count" c.unhealthy ++
      countLine "Unknown: " "total_unknown_count" c.unknown)

/-- The body around the entries, each of which stands on a line of its own. -/
def body (clientId : String) (counts : Counts) (entries : List Node) : Node :=
  .element "body" []
    [.text "\n",
      .element "div" [("id", "revolver_dashboard_content"), ("class", "container")]
        [.text "\n", .element "h5" [] (captioned "Client: " "client_id_text" clientId),
          .text "\n", totals counts, .text "\n",
          .element "ul"
            [("class", "collapsible"), ("data-collapsible", "expandable"),
              ("id", "collection_services")]
            ([.text "\n"] ++ entries.flatMap fun e => [e, .text "\n"]),
          .text "\n"],
      .text "\n"]

/-- The page around the entries. -/
def document (clientId : String) (counts : Counts) (entries : List Node)
    (refreshSeconds : Nat) : Node :=
  .element "html" [("lang", "en")]
    [.text "\n", head refreshSeconds, .text "\n", body clientId counts entries, .text "\n"]

/-- The page, to be reloaded after so many seconds, at least one. -/
def page (v : View) (refreshSeconds : Nat) : String :=
  "<!DOCTYPE html>\n" ++
    Node.markup [document (v.clientId.getD "") v.counts (v.entries.map fun e => .raw e.markup)
      refreshSeconds, .text "\n"]

end StatusBoard.View
