import HouseholdDashboard.Http.Outgoing
import HouseholdDashboard.Time.Rfc3339

/-!
# Queries to the backend

What the backend is asked: one query for the dashboard and one for the paper display,
both for everything since an instant.
-/

namespace HouseholdDashboard.Backend

/-- Events, climate, solar production and energy since an instant. -/
def dashboardText : String := "
query DashboardQuery($since: DateTime!) \x7b
  events(input: \x7b since: $since \x7d) \x7b
    doors \x7b name time state id \x7d
    appliances \x7b name time state id \x7d
    wifi \x7b name time state id \x7d
  \x7d
  environment \x7b
    outdoor \x7b temperature humidity pressure \x7d
    livingRoom \x7b temperature humidity pressure \x7d
    bedroom \x7b temperature humidity pressure \x7d
    laundry \x7b temperature humidity pressure \x7d
  \x7d
  solar(input: \x7b since: $since \x7d) \x7b
    current \x7b todayProductionKwh yesterdayProductionKwh \x7d
    history \x7b wh timestamp uvLevel \x7d
  \x7d
  energy \x7b
    history(input: \x7b since: $since \x7d) \x7b id used solarExported time \x7d
  \x7d
\x7d
"

/-- Forecast, prices and solar production since an instant. -/
def paperText : String := "
query EinkQuery($location: String!, $since: DateTime!) \x7b
  weather(input: \x7b location: $location \x7d) \x7b
    forecast \x7b days \x7b dateTime code description emoji min max uv \x7d \x7d
  \x7d
  woolworths \x7b
    products \x7b name price \x7d
  \x7d
  solar \x7b
    current \x7b
      todayProductionKwh
      currentProductionWh
      uvLevel
      statistics \x7b averages \x7b last15Mins last1Hour \x7d \x7d
    \x7d
    history(input: \x7b since: $since \x7d) \x7b wh timestamp uvLevel \x7d
  \x7d
\x7d
"

/-- A question to the backend. -/
inductive Query where
  | dashboard (since : Instant)
  /-- What the paper display at a location shows. -/
  | paper (since : Instant) (location : String)
deriving DecidableEq

namespace Query

def text : Query → String
  | dashboard _ => dashboardText
  | paper _ _ => paperText

/-- An instant as the backend is told it. -/
def sinceText (t : Instant) : String := String.ofList (Rfc3339.utcText t)

/-- What a query's text leaves open. -/
def arguments : Query → Json
  | dashboard since => .object [("since", .string (sinceText since))]
  | paper since location =>
    .object [("since", .string (sinceText since)), ("location", .string location)]

def toJson (q : Query) : Json :=
  .object [("query", .string q.text), ("variables", q.arguments)]

end Query

/-- Where the backend is, and the token that it asks for. -/
structure Endpoint where
  url : String
  token : Option String
deriving DecidableEq

namespace Endpoint

/-- An endpoint whose address is written without trailing slashes. -/
def ofSettings (url : String) (token : Option String) : Endpoint :=
  ⟨String.ofList (url.toList.reverse.dropWhile (· = '/')).reverse, token⟩

/-- The call that puts a question to the backend. -/
def post (e : Endpoint) (q : Query) : Http.Post where
  url := e.url
  headers :=
    [("accept", "application/json"), ("content-type", "application/json")] ++
      (e.token.map fun token => ("authorization", s!"Bearer {token}")).toList
  body := q.toJson

end Endpoint

end HouseholdDashboard.Backend
