import ClusterDashboard.Keyed
import ClusterDashboard.Navigation.History
/-!
Navigation between pages. Every page ever made keeps its place in `views`, so an instance is
known by its number. A page is made when it is first visited and torn down by `reload`; a name
for which none can be made leads to the root page. Each change of the current page, and each
reload, is announced in `notices`.
-/
namespace ClusterDashboard

/-- The number of a page instance, counted from 0 in the order they were made. -/
abbrev ViewId := Nat

/-- The highlighted cell of a page. -/
structure Position where
  row : Nat
  column : Nat
  deriving DecidableEq, Repr

/-- How pages come to be. `make` may refuse a name at any time. -/
structure Factory (P : Type) where
  make : String → Option P
  restore : Position → P → P

structure Navigator (P : Type) where
  root : String
  current : String
  history : History
  pages : Keyed String ViewId
  rootView : ViewId
  positions : Keyed String Position
  menuShown : Bool
  views : List P
  notices : List String

namespace Navigator

variable {P : Type}

def top (n : Navigator P) : Track := n.history.top

def page? (n : Navigator P) (name : String) : Option ViewId := n.pages.get? name

/-- The root page stands in for a current page that is not registered. -/
def currentView (n : Navigator P) : ViewId := (n.page? n.current).getD n.rootView

def recordPosition (n : Navigator P) (page : String) (position : Position) : Navigator P :=
  { n with positions := n.positions.put page position }

def notify (n : Navigator P) : Navigator P := { n with notices := n.notices ++ [n.current] }

/-- Makes a page and puts it back where its name was last left. -/
def make? (f : Factory P) (n : Navigator P) (name : String) : Option (Navigator P × ViewId) :=
  (f.make name).map fun page =>
    let placed := match n.positions.get? name with
      | some position => f.restore position page
      | none => page
    ({ n with views := n.views ++ [placed] }, n.views.length)

/-- Registers a page for the name unless there is one; false when none can be made. -/
def ensure (f : Factory P) (n : Navigator P) (name : String) : Navigator P × Bool :=
  match n.page? name with
  | some _ => (n, true)
  | none =>
    match n.make? f name with
    | some (n, view) => ({ n with pages := n.pages.put name view }, true)
    | none => (n, false)

/-- Another page gets a new history entry; the page that is left keeps its detail layer only.
On the current page only the layer changes. -/
def switchPage (f : Factory P) (n : Navigator P) (name : String) (layer : Layer) :
    Navigator P × Track :=
  let (n, found) := n.ensure f name
  let track : Track := ⟨if found then name else n.root, layer⟩
  let n := { n with menuShown := false }
  if n.current = track.name then
    ({ n with history := n.history.replaceTop track }, track)
  else
    let n := { n with current := track.name, history := n.history.settleTop.push track }
    (n.notify, track)

def navigate (f : Factory P) (n : Navigator P) (name : String) : Navigator P × Track :=
  n.switchPage f name .table

/-- Undoes one switch; an exhausted history leads to the root page. -/
def goBack (f : Factory P) (n : Navigator P) : Navigator P × Track :=
  let n := { n with menuShown := false, history := n.history.pop }
  let (n, found) := n.ensure f n.top.name
  let n := if found then n else { n with history := n.history.replaceTop (.table n.root) }
  let track := n.top
  if n.current = track.name then (n, track)
  else (notify { n with current := track.name }, track)

def showMenu (n : Navigator P) : Navigator P × Bool :=
  if n.menuShown then (n, false)
  else ({ n with menuShown := true, history := n.history.replaceTop ⟨n.current, .menu⟩ }, true)

def hideMenu (n : Navigator P) : Navigator P × Bool :=
  if !n.menuShown then (n, false)
  else
    let n := { n with menuShown := false }
    if n.top.layer = .menu then
      ({ n with history := n.history.replaceTop (.table n.current) }, true)
    else (n, true)

def dismissOverlay (n : Navigator P) : Navigator P × Bool :=
  if !n.top.layer.isOverlay then (n, false)
  else
    ({ n with menuShown := false, history := n.history.replaceTop (.table n.current) }, true)

/-- Tears every page down and makes the root page and the current page anew. A root page that is
refused stays as it is. -/
def reload (f : Factory P) (n : Navigator P) : Navigator P :=
  let n := match n.make? f n.root with
    | some (n, view) => { n with rootView := view }
    | none => n
  let n := { n with pages := Keyed.put [] n.root n.rootView }
  let (n, found) := n.ensure f n.current
  let n :=
    if found then n
    else { n with current := n.root, history := n.history.replaceTop (.table n.root) }
  n.notify

/-- Nothing is current before the root page has been navigated to. -/
def opening (root : String) (page : P) : Navigator P :=
  { root
    current := ""
    history := { root }
    pages := [(root, 0)]
    rootView := 0
    positions := []
    menuShown := false
    views := [page]
    notices := [] }

/-- Fails when there is no page for the root. -/
def start? (f : Factory P) (root : String) : Option (Navigator P) :=
  (f.make root).map fun page => ((opening root page).navigate f root).1

def startFailure (root : String) : String := "no page available for " ++ root

def modifyView (n : Navigator P) (view : ViewId) (change : P → P) : Navigator P :=
  { n with views := n.views.modify view change }

end Navigator
end ClusterDashboard
