import ClusterDashboard.Proofs.Navigation.Likeness
import ClusterDashboard.Proofs.Navigation.Registry
import ClusterDashboard.Proofs.Refresh.Following
/-!
# What refreshing leaves as it is

Where navigation stands does not depend on the pages themselves, nor on which changes of the page
the watcher has heard of. Whatever happens to a session but an operation of the navigator leaves
this course as it is.

A reading is anything that can be read off a page. Where the backend never changes it, it stays the
same on every page until somebody else changes the page, whatever the loops do.
-/
namespace ClusterDashboard

namespace Session

variable {S P J : Type} {b : Backend S P J} {s t : Session S P J}

theorem course_of_outline (h : t.outline = s.outline) : t.nav.course = s.nav.course :=
  congrArg (fun o : Outline => { o.nav with notices := [] }) h

theorem withNav_nav {α : Type} (act : Navigator (View P) → Navigator (View P) × α)
    (s : Session S P J) : (s.withNav act).1.nav = (act s.nav).1 := by
  unfold withNav
  dsimp only
  split
  · rfl
  · exact wake_nav ..

theorem operate_nav (b : Backend S P J) (op : Navigator.Operation P) (s : Session S P J) :
    (next b s (.operate op)).nav = op.views.apply s.nav := withNav_nav _ s

theorem next_course {e : Event S P} (h : e.navigates = false) :
    (next b s e).nav.course = s.nav.course := by
  cases hd : e.isDirect with
  | true => exact congrArg _ (direct_frame b hd).1
  | false =>
    rcases outline_cases b hd with ho | ⟨op, rfl, -⟩ | ⟨rfl, hn⟩ | ⟨rfl, -⟩
    · exact course_of_outline ho
    · cases h
    · rw [hn, pollWatcher_nav]
      split <;> rfl
    · exact congrArg _ (wake_nav ..)

/-- Nothing ever makes another page the root page. -/
theorem next_root (b : Backend S P J) (s : Session S P J) (e : Event S P) :
    (next b s e).nav.root = s.nav.root := by
  cases hn : e.navigates with
  | false => exact congrArg (fun n : Navigator Unit => n.root) (next_course hn)
  | true =>
    cases e with
    | operate op =>
      rw [operate_nav]
      exact op.views.apply_root s.nav
    | _ => cases hn

end Session

variable {S P J α : Type} {reading : P → α}

/-- Neither the beginning nor the end of a refresh changes the reading. -/
structure Backend.Keeps (b : Backend S P J) (reading : P → α) : Prop where
  start : ∀ source id view page, reading (b.start source id view page).2.1 = reading page
  complete : ∀ page job, reading (b.complete page job).1 = reading page

namespace Session

variable {b : Backend S P J} {s t : Session S P J} {id : LoopId} {view : ViewId}

def readings (reading : P → α) (s : Session S P J) : List α :=
  s.nav.views.map fun v => reading v.page

/-- A page changes by other ways than a refresh, but not its reading. -/
def Event.Keeps (reading : P → α) : Event S P → Prop
  | .edit _ change => ∀ page, reading (change page) = reading page
  | _ => True

theorem readings_of_nav (h : t.nav.views = s.nav.views) : t.readings reading = s.readings reading :=
  congrArg (List.map _) h

theorem modifyView_readings {change : View P → View P}
    (h : ∀ v, s.nav.views[view]? = some v → reading (change v).page = reading v.page) :
    ((s.nav.modifyView view change).views.map fun v => reading v.page) = s.readings reading := by
  apply List.ext_getElem?
  intro i
  rw [readings, List.getElem?_map, List.getElem?_map, Navigator.modifyView, List.getElem?_modify]
  by_cases hi : view = i
  · subst hi
    cases hv : s.nav.views[view]? with
    | none => simp
    | some v => simp [h v hv]
  · simp [hi]

theorem modifyChannel_readings (view : ViewId) (change : Channel → Channel)
    (s : Session S P J) :
    (s.modifyChannel view change).readings reading = s.readings reading :=
  modifyView_readings fun _ _ => rfl

theorem modifyPage_readings {change : P → P}
    (h : ∀ page, s.page? view = some page → reading (change page) = reading page) :
    (s.modifyPage view change).readings reading = s.readings reading := by
  apply modifyView_readings
  intro v hv
  refine h v.page ?_
  rw [page?, hv]
  rfl

theorem wake_readings (task : Task) (s : Session S P J) :
    (s.wake task).readings reading = s.readings reading :=
  readings_of_nav (by rw [wake_nav])

theorem trigger_readings (view : ViewId) (s : Session S P J) :
    (s.trigger view).1.readings reading = s.readings reading := by
  unfold trigger
  dsimp only
  split
  · rfl
  · split
    · rw [wake_readings]
      exact modifyChannel_readings ..
    · exact modifyChannel_readings ..

theorem endLoop_readings (id : LoopId) (view : ViewId) (s : Session S P J) :
    (s.endLoop id view).readings reading = s.readings reading := by
  unfold endLoop leaveChannel
  dsimp only
  split
  · split
    · exact modifyChannel_readings ..
    · rw [wake_readings]
      exact modifyChannel_readings ..
  · exact modifyChannel_readings ..

theorem conclude_readings (hb : b.Keeps reading) (id : LoopId) (view : ViewId) (job : J)
    (s : Session S P J) : (s.conclude b id view job).readings reading = s.readings reading := by
  cases hp : s.page? view with
  | none =>
    rw [conclude, hp]
    exact endLoop_readings id view s
  | some page =>
    have hm : (s.modifyPage view fun _ => (b.complete page job).1).readings reading =
        s.readings reading := by
      apply modifyPage_readings
      intro other ho
      obtain rfl : page = other := Option.some.inj (hp.symm.trans ho)
      exact hb.complete page job
    rw [conclude_eq hp]
    dsimp only
    split
    · rw [endLoop_readings]
      exact hm
    · exact hm

theorem takeUp_readings (hb : b.Keeps reading) {page : P} (hp : s.page? view = some page) :
    (s.takeUp b id view page).readings reading = s.readings reading := by
  let idle := s.modifyChannel view fun c => { c with pending := false }
  have hi : idle.page? view = some page := (modifyChannel_page? ..).trans hp
  have hm : (idle.modifyPage view fun _ => (b.start s.source id view page).2.1).readings reading =
      idle.readings reading := by
    apply modifyPage_readings
    intro other ho
    obtain rfl : page = other := Option.some.inj (hi.symm.trans ho)
    exact hb.start ..
  exact hm.trans (modifyChannel_readings ..)

theorem listen_readings (hb : b.Keeps reading) (id : LoopId) (view : ViewId)
    (s : Session S P J) : (s.listen b id view).readings reading = s.readings reading := by
  cases hp : s.page? view with
  | none =>
    rw [listen, hp]
    split
    · exact endLoop_readings id view s
    · split
      · rfl
      · exact endLoop_readings id view s
  | some page =>
    have ht : (s.takeUp b id view page).readings reading = s.readings reading :=
      takeUp_readings hb hp
    rw [listen_eq hp]
    split
    · exact endLoop_readings id view s
    split
    · rfl
    split
    · exact ht
    · exact (conclude_readings hb id view _ _).trans ht

theorem pollLoop_readings (hb : b.Keeps reading) (id : LoopId) (s : Session S P J) :
    (s.pollLoop b id).readings reading = s.readings reading := by
  cases hl : s.loops[id]? with
  | none => rw [pollLoop, hl]
  | some l =>
    cases poll_step b hl with
    | rested _ same => rw [same]
    | ended _ ends =>
      rw [ends]
      exact endLoop_readings id l.view s
    | listened _ listens =>
      rw [listens]
      exact listen_readings hb id l.view s
    | claimed _ _ claims =>
      rw [claims]
      exact (listen_readings hb id l.view _).trans (modifyChannel_readings ..)
    | queued _ _ _ waits =>
      rw [waits]
      exact modifyChannel_readings l.view (fun c => { c with waiting := c.waiting ++ [id] }) s
    | answered job _ answers =>
      have concluded := conclude_readings hb id l.view job s
      rw [answers]
      split
      · exact concluded
      · exact (listen_readings hb id l.view _).trans concluded

theorem pollWatcher_readings (s : Session S P J) :
    s.pollWatcher.readings reading = s.readings reading := by
  refine readings_of_nav ?_
  rw [pollWatcher_nav]
  split <;> rfl

/-- But for navigation, every event leaves all readings as they are. -/
theorem next_readings (hb : b.Keeps reading) {e : Event S P} (hn : e.navigates = false)
    (he : e.Keeps reading) : (next b s e).readings reading = s.readings reading := by
  cases e with
  | operate op => cases hn
  | trigger view => exact trigger_readings view s
  | poll task =>
    cases task with
    | watcher => exact pollWatcher_readings (s.dequeue .watcher)
    | loop id => exact pollLoop_readings hb id (s.dequeue (.loop id))
  | resume id => exact wake_readings _ _
  | supply source => rfl
  | edit view change => exact modifyPage_readings fun page _ => he page
  | attach view => exact readings_of_nav (by rw [next, (surroundings_eq (attach_surroundings ..)).1])
  | cancel id => exact readings_of_nav (by rw [next, (surroundings_eq (cancel_surroundings ..)).1])
  | shutdown => exact readings_of_nav (by rw [next, shutdown_nav])
  | closeEvents => rfl
  | takeEvents => rfl
  | drop => exact wake_readings _ _

/-- What every registered page reads belongs to its name. -/
abbrev Files (reading : P → α) (R : String → α → Prop) (s : Session S P J) : Prop :=
  s.nav.Filed fun name v => R name (reading v.page)

variable {R : String → α → Prop}

theorem Files.of_readings (h : s.Files reading R) (pages : t.nav.pages = s.nav.pages)
    (same : t.readings reading = s.readings reading) : t.Files reading R := by
  intro name view hv
  rw [Navigator.page?, pages] at hv
  obtain ⟨v, hm, hr⟩ := h name view hv
  have ht : (t.readings reading)[view]? = some (reading v.page) := by
    rw [same, readings, List.getElem?_map, hm]
    rfl
  rw [readings, List.getElem?_map] at ht
  obtain ⟨w, hw, hs⟩ := Option.map_eq_some_iff.mp ht
  have hq : R name (reading w.page) := by rw [hs]; exact hr
  exact ⟨w, hw, hq⟩

theorem Files.page (h : s.Files reading R) {name : String} (hv : s.nav.page? name = some view) :
    ∃ page, s.page? view = some page ∧ R name (reading page) := by
  obtain ⟨v, hm, hr⟩ := h name view hv
  exact ⟨v.page, by rw [page?, hm]; rfl, hr⟩

end Session
end ClusterDashboard
