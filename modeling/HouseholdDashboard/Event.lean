import HouseholdDashboard.Json.Reader

/-!
# Device events

Doors, appliances and WiFi clients report when they change state.  A state that
this version does not know is kept as unknown, so that newer backends stay
readable; every other state is a kind of event that the chart can draw.
-/

namespace HouseholdDashboard

/-- What sort of device reports. -/
inductive Category where
  | door
  | appliance
  | wifi
deriving DecidableEq

/-- What a chart can show of a device: a sort of device in a state. -/
inductive Kind where
  | doorOpen
  | doorClosed
  | applianceOn
  | applianceOff
  | wifiConnected
  | wifiDisconnected
deriving DecidableEq

/-- The shape of a mark on the chart. -/
inductive Marker where
  | circle
  | triangle
  | square
deriving DecidableEq

namespace Category

def all : List Category := [door, appliance, wifi]

def name : Category → String
  | door => "door"
  | appliance => "appliance"
  | wifi => "wifi"

def ofName? (name : String) : Option Category :=
  all.find? (·.name = name)

def marker : Category → Marker
  | door => .circle
  | appliance => .triangle
  | wifi => .square

/-- The height at which a category's marks are drawn. -/
def lane : Category → Float
  | door => 3.0
  | appliance => 2.0
  | wifi => 1.0

end Category

namespace Marker

def name : Marker → String
  | circle => "circle"
  | triangle => "triangle"
  | square => "square"

end Marker

namespace Kind

def all : List Kind :=
  [doorOpen, doorClosed, applianceOn, applianceOff, wifiConnected, wifiDisconnected]

def category : Kind → Category
  | doorOpen | doorClosed => .door
  | applianceOn | applianceOff => .appliance
  | wifiConnected | wifiDisconnected => .wifi

def name : Kind → String
  | doorOpen => "doorOpen"
  | doorClosed => "doorClosed"
  | applianceOn => "applianceOn"
  | applianceOff => "applianceOff"
  | wifiConnected => "wifiConnected"
  | wifiDisconnected => "wifiDisconnected"

def ofName? (name : String) : Option Kind :=
  all.find? (·.name = name)

/-- The backend's word for the state. -/
def word : Kind → String
  | doorOpen => "OPEN"
  | doorClosed => "CLOSED"
  | applianceOn => "ON"
  | applianceOff => "OFF"
  | wifiConnected => "CONNECTED"
  | wifiDisconnected => "DISCONNECTED"

def colour : Kind → String
  | doorOpen => "#cc6666"
  | doorClosed => "#22c55e"
  | applianceOn => "#3b82f6"
  | applianceOff => "#6b7280"
  | wifiConnected => "#8b5cf6"
  | wifiDisconnected => "#06b6d4"

end Kind

/-- The state that an event reports. -/
inductive State where
  | known (kind : Kind)
  /-- A word that this version does not know, from a device of the category. -/
  | unknown (category : Category)
deriving DecidableEq

namespace State

def category : State → Category
  | known kind => kind.category
  | unknown category => category

def kind? : State → Option Kind
  | known kind => some kind
  | unknown _ => none

/-- The state that a category's devices mean by a word. -/
def ofWord (category : Category) (word : String) : State :=
  match Kind.all.find? fun kind => kind.category = category ∧ kind.word = word with
  | some kind => known kind
  | none => unknown category

theorem ofWord_of_word {category : Category} {kind : Kind} (sort : kind.category = category) :
    ofWord category kind.word = known kind := by
  subst sort
  cases kind <;> decide

/-- A state in a document. -/
def read (category : Category) : Json.Reader State :=
  Json.Reader.word fun word => some (ofWord category word)

end State

/-- A change of a device's state as the backend reports it. -/
structure Event where
  id : String
  device : String
  state : State
  /-- The time as the backend wrote it. -/
  time : String
deriving DecidableEq

namespace Event

def category (e : Event) : Category := e.state.category

end Event

end HouseholdDashboard
