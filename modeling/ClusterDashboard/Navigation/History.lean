/-!
What lies over a page's table, and the navigation history with an entry for each page that was
visited, newest first. An exhausted history shows the root page's table.
-/
namespace ClusterDashboard

inductive StatusKind where
  | progress
  | error
  deriving DecidableEq, Repr

inductive Layer where
  | table
  | menu
  | detail (title body : String)
  | logs (title : String)
  | confirm (prompt : String)
  | status (message : String) (kind : StatusKind)
  deriving DecidableEq, Repr

namespace Layer

def isOverlay : Layer → Bool
  | .table => false
  | _ => true

/-- Only details survive when the page is left. -/
def isTransient : Layer → Bool
  | .menu | .logs _ | .confirm _ | .status _ _ => true
  | .table | .detail _ _ => false

def isStatus : Layer → Bool
  | .status _ _ => true
  | _ => false

def isLogs : Layer → Bool
  | .logs _ => true
  | _ => false

/-- The layers whose text can be scrolled. -/
def isScrollable : Layer → Bool
  | .detail _ _ | .logs _ => true
  | _ => false

def settled (layer : Layer) : Layer := if layer.isTransient then .table else layer

end Layer

/-- A page by name, and what was shown over it. -/
structure Track where
  name : String
  layer : Layer := .table
  deriving DecidableEq, Repr

namespace Track

def table (name : String) : Track := ⟨name, .table⟩

def settled (track : Track) : Track := { track with layer := track.layer.settled }

end Track

structure History where
  root : String
  tracks : List Track := []
  deriving DecidableEq, Repr

namespace History

def top (h : History) : Track := h.tracks.headD (.table h.root)

def push (h : History) (track : Track) : History := { h with tracks := track :: h.tracks }

def pop? (h : History) : Option Track := h.tracks.head?

def pop (h : History) : History := { h with tracks := h.tracks.tail }

/-- On an exhausted history the entry becomes the first one. -/
def replaceTop (h : History) (track : Track) : History :=
  { h with tracks := track :: h.tracks.tail }

def settleTop (h : History) : History :=
  { h with
    tracks := match h.tracks with
      | [] => []
      | track :: below => track.settled :: below }

def size (h : History) : Nat := h.tracks.length

end History

end ClusterDashboard
