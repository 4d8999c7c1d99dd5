/-
  Feedcast.Static.Main — the routes of the page and its session gate
  (`static/js/main.js`).

  The hash is the only routing there is.  `authed` is unknown until `/auth/me`
  answers.  Assigning to the hash queues a `hashchange`; `replaceState` does not.
  Each event comes with whether the deck has slides when it is handled.

    • `Gate` — the variables of the module, and what is on screen,
    • `Gate.fromHash` — one draw for each call,
    • `Gate.step` — the events a page sees, until it is reloaded.
-/
import Feedcast.Core.Platform

namespace Feedcast

/-! ## §1. Routes. -/

inductive Route
  | discover
  | gallery
  | cities
  | studio
  deriving Repr, DecidableEq

namespace Route

def name : Route → Str
  | discover => "discover".toList
  | gallery => "gallery".toList
  | cities => "cities".toList
  | studio => "studio".toList

/-- The keys of `ROUTES`. -/
def all : List Route := [discover, gallery, cities, studio]

/-- The tab that is lit. -/
def tab : Route → Route
  | discover => discover
  | gallery => gallery
  | cities => cities
  | studio => discover

/-- The text of `#where`. -/
def whereText : Route → Str
  | cities => "coverage and feed health".toList
  | gallery => "every carousel, newest work first".toList
  | studio => "edit and export the carousel".toList
  | discover => "last 24 hours, newest first".toList

end Route

def routeOf (name : Str) : Option Route := Route.all.find? fun route => route.name = name

/-- What `ROUTES` has from `Object.prototype`, like any object. -/
def inheritedNames : List Str :=
  ["constructor".toList, "__defineGetter__".toList, "__defineSetter__".toList,
    "hasOwnProperty".toList, "__lookupGetter__".toList, "__lookupSetter__".toList,
    "isPrototypeOf".toList, "propertyIsEnumerable".toList, "toString".toList, "valueOf".toList,
    "__proto__".toList, "toLocaleString".toList]

/-- `ROUTES[name]` is truthy. -/
def inRoutes (name : Str) : Bool := (routeOf name).isSome || decide (name ∈ inheritedNames)

def loginName : Str := "login".toList

/-- `resolve(name)`; `deck` tells whether there are slides to edit. -/
def resolveRoute (name : Str) (deck : Bool) : Str :=
  if inRoutes name = false then Route.name .discover
  else if name = Route.name .studio ∧ deck = false then Route.name .discover
  else name

/-! ## §2. The gate. -/

/-- What `root` is given to. -/
inductive Drawn
  | login
  | route (route : Route)
  deriving Repr, DecidableEq

structure Gate where
  authed : Option Bool := none
  returnTo : Str := Route.name .discover
  pickerMounted : Bool := false
  hash : Str
  /-- The navigation and the logout button are shown. -/
  chrome : Bool := false
  /-- `document.body.dataset.view`. -/
  view : Option Str := none
  whereText : Str := []
  /-- The tab that is lit. -/
  current : Option Route := none
  /-- What was drawn, in order. -/
  drawn : List Drawn := []
  /-- How often the picker was mounted. -/
  mounts : Nat := 0
  /-- Queued `hashchange` events. -/
  pending : Nat := 0
  deriving Repr, DecidableEq

namespace Gate

/-- The module is loaded under this hash, and asks `/auth/me`. -/
def opened (hash : Str) : Gate where
  hash := hash
  returnTo := if inRoutes hash then hash else Route.name .discover

/-- `render(name)`.  A name that is no key of `ROUTES` has neither tab nor view:
`route.render` is not a function, and that raises. -/
def render (gate : Gate) (name : Str) : Gate :=
  let whereText := match routeOf name with
    | some route => route.whereText
    | none => Route.whereText .discover
  let gate := { gate with
    current := (routeOf name).map Route.tab
    whereText := whereText
    view := some name }
  match routeOf name with
  | some route => { gate with drawn := gate.drawn ++ [.route route] }
  | none => gate

def setChrome (gate : Gate) (loggedIn : Bool) : Gate := { gate with chrome := loggedIn }

def showLogin (gate : Gate) : Gate :=
  { gate.setChrome false with
    whereText := []
    view := some loginName
    drawn := gate.drawn ++ [.login] }

def fromHash (gate : Gate) (deck : Bool) : Gate :=
  match gate.authed with
  | none => gate
  | some false =>
      showLogin { gate with
        returnTo := if inRoutes gate.hash then gate.hash else gate.returnTo
        hash := loginName }
  | some true =>
      let name := resolveRoute gate.hash deck
      render { gate with hash := name } name

def onLoggedIn (gate : Gate) (deck : Bool) : Gate :=
  let gate := { gate with authed := some true }.setChrome true
  let gate :=
    if gate.pickerMounted then gate
    else { gate with pickerMounted := true, mounts := gate.mounts + 1 }
  { gate with hash := gate.returnTo }.fromHash deck

/-- `/auth/me` is refused. -/
def refused (gate : Gate) (deck : Bool) : Gate := { gate with authed := some false }.fromHash deck

/-- `feedcast:logged-out`. -/
def loggedOut (gate : Gate) (deck : Bool) : Gate :=
  if gate.authed = some false then gate else { gate with authed := some false }.fromHash deck

/-- The hash is assigned to: nothing happens unless it changes. -/
def assign (gate : Gate) (hash : Str) : Gate :=
  if gate.hash = hash then gate else { gate with hash := hash, pending := gate.pending + 1 }

/-- A click on a tab: never both the assignment and the render. -/
def click (gate : Gate) (tab : Route) (deck : Bool) : Gate :=
  if gate.hash = tab.name then gate.fromHash deck else gate.assign tab.name

end Gate

inductive GateEvent
  /-- `/auth/me` answers. -/
  | me (ok : Bool) (deck : Bool)
  /-- A link, the address bar, the history, or another module. -/
  | assign (hash : Str)
  | click (tab : Route) (deck : Bool)
  | hashchange (deck : Bool)
  /-- The login form was accepted. -/
  | loggedIn (deck : Bool)
  /-- `feedcast:logged-out`. -/
  | loggedOut (deck : Bool)
  /-- The logout button; the page is loaded again under `#login`. -/
  | logout
  deriving Repr, DecidableEq

def Gate.step (gate : Gate) : GateEvent → Option Gate
  | .me ok deck =>
      if gate.authed = none then some (if ok then gate.onLoggedIn deck else gate.refused deck)
      else none
  | .assign hash => some (gate.assign hash)
  | .click tab deck => if gate.chrome then some (gate.click tab deck) else none
  | .hashchange deck =>
      match gate.pending with
      | 0 => none
      | pending + 1 => some ({ gate with pending := pending }.fromHash deck)
  -- a form that was drawn may be answered after it was drawn over
  | .loggedIn deck => if Drawn.login ∈ gate.drawn then some (gate.onLoggedIn deck) else none
  -- only the picker and the views send requests that dispatch it
  | .loggedOut deck => if gate.authed = none then none else some (gate.loggedOut deck)
  | .logout => if gate.chrome then some (Gate.opened loginName) else none

end Feedcast
