import ClusterDashboard.Dashboard.Run
import ClusterDashboard.Proofs.Refresh.Runs
/-!
# Runs of the dashboard

Keys, the effects they leave, messages and background work happen one at a time and in any order,
but the effect of a key is carried out before the next key. The loop that reads keys, and the one
that lets background work go on, are such runs.
-/
namespace ClusterDashboard.Dashboard

variable {S J : Type}

/-- A dashboard, and the effect of the last key as long as it is to be carried out. -/
structure Desk (S J : Type) where
  board : Dashboard S J
  due : Effect := .none

inductive Event (S : Type) where
  | press (key : Key)
  | perform (program : Kubectl.Program) (editors : Kubectl.Editors)
  | refreshEvent (event : RefreshEvent)
  | uiEvent (event : UiEvent)
  | message (text : String) (kind : StatusKind)
  | tick
  | background (event : Session.Event S TablePage)
  | child (stream : Nat) (event : Kubectl.FollowEvent)
  | runFollowers
  | runTimers
  | wait (ms : Nat)
  | clampScroll (height : Nat)
  | emptyQueue
  | discover (catalog : Catalog)
  | identify (version : String)

namespace Desk

/-- Something happens to the dashboard that is not a key and leaves no effect. -/
def onBoard (change : Dashboard S J → Dashboard S J) (s : Desk S J) : Desk S J :=
  { s with board := change s.board }

def next (b : Backend S TablePage J) (s : Desk S J) : Event S → Desk S J
  | .press key => ⟨(s.board.press key).1, (s.board.press key).2⟩
  | .perform program editors => ⟨(s.board.perform program editors s.due).1, .none⟩
  | .refreshEvent event => s.onBoard (·.onRefreshEvent event)
  | .uiEvent event => s.onBoard (·.onUiEvent event)
  | .message text kind => s.onBoard (·.showStatus text kind)
  | .tick => s.onBoard (·.tick.1)
  | .background event => s.onBoard fun d => { d with session := Session.next b d.session event }
  | .child stream event => s.onBoard (·.childStep stream event)
  | .runFollowers => s.onBoard (·.runFollowers)
  | .runTimers => s.onBoard (·.runTimers)
  | .wait ms => s.onBoard fun d => { d with clock := d.clock + ms }
  | .clampScroll height => s.onBoard (·.clampScroll height)
  | .emptyQueue => s.onBoard fun d => { d with uiEvents := [] }
  | .discover catalog => s.onBoard fun d => { d with catalog }
  | .identify version => s.onBoard fun d => { d with serverVersion := version }

/-- Only keys navigate. -/
def Enabled (s : Desk S J) : Event S → Prop
  | .press _ => s.due = .none
  | .background event => Session.Enabled s.board.session event ∧ event.navigates = false
  | _ => True

instance (s : Desk S J) : (e : Event S) → Decidable (Enabled s e)
  | .press _ => inferInstanceAs (Decidable (s.due = .none))
  | .background event =>
    inferInstanceAs (Decidable (Session.Enabled s.board.session event ∧ event.navigates = false))
  | .perform _ _ | .refreshEvent _ | .uiEvent _ | .message _ _ | .tick | .child _ _
  | .runFollowers | .runTimers | .wait _ | .clampScroll _ | .emptyQueue | .discover _ | .identify _ =>
    .isTrue trivial

abbrev runTrace (b : Backend S TablePage J) : Desk S J → List (Event S) → Desk S J :=
  Trace.run (next b)

abbrev ValidTrace (b : Backend S TablePage J) : Desk S J → List (Event S) → Prop :=
  Trace.Valid Enabled (next b)

abbrev Reaches (b : Backend S TablePage J) : Desk S J → Desk S J → Prop :=
  Trace.Reaches Enabled (next b)

section Reaches

variable {b : Backend S TablePage J}

theorem background_reaches {s : Desk S J} {t : Session S TablePage J}
    (h : Trace.Reaches (fun s e => Session.Enabled s e ∧ e.navigates = false) (Session.next b)
      s.board.session t) : Reaches b s (s.onBoard fun d => { d with session := t }) := by
  obtain ⟨events, valid, rfl⟩ := h
  induction events generalizing s with
  | nil => exact .refl s
  | cons e events ih =>
    have he : Reaches b s (next b s (.background e)) := .step valid.1
    exact he.trans (ih valid.2)

/-- A key that is typed is pressed, and its effect is carried out before the next one. -/
theorem typeKey_reaches (program : Kubectl.Program) (editors : Kubectl.Editors) (height : Nat)
    (state : Dashboard S J × Option Kubectl.Call) (key : Key) :
    Reaches b ⟨state.1, .none⟩ ⟨(typeKey program editors height state key).1, .none⟩ := by
  obtain ⟨d, call⟩ := state
  unfold typeKey
  dsimp only
  split
  · exact .refl _
  · exact ⟨[.clampScroll height, .press key, .clampScroll height, .perform program editors,
      .clampScroll height], ⟨trivial, rfl, trivial, trivial, trivial, trivial⟩, rfl⟩

theorem runKeys_reaches (program : Kubectl.Program) (editors : Kubectl.Editors) (height : Nat)
    (keys : List Key) (d : Dashboard S J) :
    Reaches b ⟨d, .none⟩ ⟨(d.runKeys program editors height keys).1, .none⟩ := by
  let body := (bodyArea 0 height).height
  have ht : Reaches b ⟨d, .none⟩ ⟨d.tick.1.clampScroll body, .none⟩ :=
    ⟨[.tick, .clampScroll body], ⟨trivial, trivial, trivial⟩, rfl⟩
  exact ht.trans
    (.foldl (typeKey_reaches program editors body) (d.tick.1.clampScroll body, none) keys)

theorem settle_reaches (d : Dashboard S J) : Reaches b ⟨d, .none⟩ ⟨d.settle b, .none⟩ := by
  have hb : Reaches b ⟨d, .none⟩ ⟨{ d with session := d.session.settle b }, .none⟩ :=
    background_reaches (Session.settle_reaches b d.session)
  exact hb.trans ⟨[.runTimers, .runFollowers], ⟨trivial, trivial, trivial⟩, rfl⟩

theorem deliver_reaches (d : Dashboard S J) : Reaches b ⟨d, .none⟩ ⟨d.deliver.1, .none⟩ := by
  have ht : Reaches b ⟨d, .none⟩
      ⟨{ d with session := d.session.takeEvents.1, uiEvents := [] }, .none⟩ :=
    ⟨[.background .takeEvents, .emptyQueue], ⟨⟨trivial, rfl⟩, trivial, trivial⟩, rfl⟩
  have hr : ∀ (d : Dashboard S J) event, Reaches b ⟨d, .none⟩ ⟨d.onRefreshEvent event, .none⟩ :=
    fun _ event => .step (e := Event.refreshEvent event) trivial
  have hu : ∀ (d : Dashboard S J) event, Reaches b ⟨d, .none⟩ ⟨d.onUiEvent event, .none⟩ :=
    fun _ event => .step (e := Event.uiEvent event) trivial
  exact (ht.trans (.foldl hr _ _)).trans (.foldl hu _ _)

end Reaches

end Desk
end ClusterDashboard.Dashboard
