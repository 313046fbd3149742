import ClusterDashboard.Proofs.Dashboard.Actions
import ClusterDashboard.Proofs.Dashboard.Runs
/-!
# A deletion is what was asked for

In every run the mode, the waiting target and the dialog agree. A target is deleted only when its
dialog is answered with yes, and the dialog has been open since the delete key was pressed on the
row of that target.
-/
namespace ClusterDashboard.Dashboard

open Situation (Quiet Asking)

variable {S J : Type} {b : Backend S TablePage J} {d : Dashboard S J} {target : Target}

theorem onRefreshEvent_situation (h : d.mode = .confirm) (event : RefreshEvent) :
    (d.onRefreshEvent event).situation = d.situation := by
  unfold onRefreshEvent
  split
  · rfl
  · split
    · exact showStatus_situation h _ _
    · rfl

theorem onUiEvent_situation (h : d.top.layer.isStatus = false) (event : UiEvent) :
    (d.onUiEvent event).situation = d.situation := by
  unfold onUiEvent
  split
  · split
    · rfl
    · rw [syncStream_situation, h]
      rfl
  · split <;> rfl

theorem confirmAction_cases (key : Key) :
    key.confirmAction? = none ∨ key.confirmAction? = some .confirmYes ∨
      key.confirmAction? = some .confirmNo := by
  unfold Key.confirmAction?
  split <;> simp

namespace Desk

variable {s : Desk S J} {e : Event S}

/-- The targets that a key leaves to be deleted. -/
def deletions (s : Desk S J) : Event S → List Target
  | .press key => match (s.board.press key).2 with
    | .delete target => [target]
    | _ => []
  | _ => []

def asks (s : Desk S J) : Event S → List Key
  | .press key => if key.action? s.board.mode = some .delete then [key] else []
  | _ => []

abbrev deletionsAlong (b : Backend S TablePage J) : Desk S J → List (Event S) → List Target :=
  Trace.gather deletions (next b)

abbrev asksAlong (b : Backend S TablePage J) : Desk S J → List (Event S) → List Key :=
  Trace.gather asks (next b)

/-- While a question is open nothing is to be carried out. -/
def Invariant (s : Desk S J) : Prop :=
  s.board.situation.Quiet ∨ s.due = .none ∧ ∃ target, s.board.situation.Asking target

/-- What an event can do to the question. -/
inductive Turn (b : Backend S TablePage J) (s : Desk S J) (e : Event S) : Prop where
  | quiet (before : s.board.situation.Quiet) (after : (next b s e).board.situation.Quiet)
      (nothing : deletions s e = [])
  | asked (key : Key) (row : Row) (target : Target) (pressed : e = .press key)
      (meant : key.action? s.board.mode = some .delete)
      (selected : s.board.page.view.selectedRow? = some row)
      (named : Target.ofRow? s.board.page.kind row = some target)
      (before : s.board.situation.Quiet) (idle : (next b s e).due = .none)
      (after : (next b s e).board.situation.Asking target) (nothing : deletions s e = [])
  | kept (target : Target) (before : s.board.situation.Asking target)
      (idle : (next b s e).due = .none)
      (after : (next b s e).board.situation.Asking target) (nothing : deletions s e = [])
  | answered (target : Target) (before : s.board.situation.Asking target)
      (after : (next b s e).board.situation.Quiet)
      (said : deletions s e = [] ∨ ∃ key, e = .press key ∧
        key.action? s.board.mode = some .confirmYes ∧ deletions s e = [target])

/-- An event that is neither a key nor shows anything leaves the question alone. -/
theorem next_aside (b : Backend S TablePage J) (he : Enabled s e) :
    (∃ key, e = .press key) ∨ (∃ program editors, e = .perform program editors) ∨
    (∃ event, e = .refreshEvent event) ∨ (∃ event, e = .uiEvent event) ∨
    (∃ text kind, e = .message text kind) ∨
    (next b s e).board.situation = s.board.situation ∧ (next b s e).due = s.due ∧
      deletions s e = [] := by
  cases e with
  | press key => exact .inl ⟨key, rfl⟩
  | perform program editors => exact .inr (.inl ⟨program, editors, rfl⟩)
  | refreshEvent event => exact .inr (.inr (.inl ⟨event, rfl⟩))
  | uiEvent event => exact .inr (.inr (.inr (.inl ⟨event, rfl⟩)))
  | message text kind => exact .inr (.inr (.inr (.inr (.inl ⟨text, kind, rfl⟩))))
  | tick => exact .inr (.inr (.inr (.inr (.inr ⟨tick_situation _, rfl, rfl⟩))))
  | background event =>
    exact .inr (.inr (.inr (.inr (.inr ⟨background_situation he.2, rfl, rfl⟩))))
  | clampScroll height =>
    exact .inr (.inr (.inr (.inr (.inr ⟨clampScroll_situation _ _, rfl, rfl⟩))))
  | child | runFollowers | runTimers | wait | emptyQueue | discover | identify =>
    exact .inr (.inr (.inr (.inr (.inr ⟨rfl, rfl, rfl⟩))))

theorem deletions_press {key : Key} (h : ∀ target, (s.board.press key).2 ≠ .delete target) :
    deletions s (.press key) = [] := by
  cases he : (s.board.press key).2 with
  | delete target => exact absurd he (h target)
  | _ => simp only [deletions, he]

theorem press_quiet (h : s.board.situation.Quiet) (key : Key) : Turn b s (.press key) := by
  have nothing : deletions s (.press key) = [] := by
    apply deletions_press
    intro target ht
    cases (press_delete ht).2.symm.trans h.pending
  cases ha : key.action? s.board.mode with
  | none =>
    refine .quiet h ?_ nothing
    simpa only [next, press, ha] using h
  | some action =>
    have hs : (s.board.press key).1.situation = (s.board.dispatch action).1.situation := by
      simp only [press, ha]
      exact act_situation action s.board
    by_cases hd : action = .delete
    · subst hd
      rcases askDelete_cases h with hq | ⟨row, target, hr, ht, hq⟩
      · exact .quiet h (hs ▸ hq) nothing
      · exact .asked key row target rfl ha hr ht h (by simp only [next, press, ha]; rfl)
          (hs ▸ hq) nothing
    · exact .quiet h (hs ▸ Quiet.dispatch h hd) nothing

theorem quiet_turn (h : s.board.situation.Quiet) (he : Enabled s e) : Turn b s e := by
  rcases next_aside b he with ⟨key, rfl⟩ | ⟨program, editors, rfl⟩ | ⟨event, rfl⟩ |
    ⟨event, rfl⟩ | ⟨text, kind, rfl⟩ | ⟨hs, -, hn⟩
  · exact press_quiet h key
  · exact .quiet h (Quiet.perform h program editors s.due) rfl
  · exact .quiet h (Quiet.onRefreshEvent h event) rfl
  · exact .quiet h (Quiet.onUiEvent h event) rfl
  · exact .quiet h (Quiet.showStatus h text kind) rfl
  · exact .quiet h (hs ▸ h) hn

theorem press_asking (h : s.board.situation.Asking target) (key : Key) :
    Turn b s (.press key) := by
  have hm : s.board.mode = .confirm := h.mode
  have hp : s.board.pendingDelete = some target := h.pending
  have hk : key.action? s.board.mode = key.confirmAction? := by rw [hm]; rfl
  have hq := closeQuestion_quiet h.toCalm
  rcases confirmAction_cases key with ha | ha | ha
  · have hn : s.board.press key = (s.board, .none) := by simp only [press, hk, ha]
    refine .kept target h ?_ ?_ (deletions_press (by simp [hn]))
    · simp only [next, hn]
    · simpa only [next, hn] using h
  · have hn : s.board.press key = (s.board.closeQuestion.syncStream, .delete target) := by
      simp only [press, hk, ha, act, dispatch, confirmYes, hp]
    refine .answered target h ?_ (.inr ⟨key, rfl, hk.trans ha, ?_⟩)
    · simp only [next, hn, syncStream_situation]
      exact hq
    · simp only [deletions, hn]
  · have hn : s.board.press key =
        ((s.board.closeQuestion.say ("Kept " ++ target.label)).syncStream, .none) := by
      simp only [press, hk, ha, act, dispatch, confirmNo, hp]
    refine .answered target h ?_ (.inl (deletions_press (by simp [hn])))
    simp only [next, hn, syncStream_situation]
    exact hq

theorem asking_turn (h : s.board.situation.Asking target) (hd : s.due = .none)
    (he : Enabled s e) : Turn b s e := by
  have hm : s.board.mode = .confirm := h.mode
  have ht : s.board.top.layer.isStatus = false := by
    have ht : s.board.top.layer = _ := h.top
    rw [ht]
    rfl
  rcases next_aside b he with ⟨key, rfl⟩ | ⟨program, editors, rfl⟩ | ⟨event, rfl⟩ |
    ⟨event, rfl⟩ | ⟨text, kind, rfl⟩ | ⟨hs, hn, hx⟩
  · exact press_asking h key
  · refine .kept target h rfl ?_ rfl
    simpa only [next, hd, perform] using h
  · exact .kept target h hd ((onRefreshEvent_situation hm event).symm ▸ h) rfl
  · exact .kept target h hd ((onUiEvent_situation ht event).symm ▸ h) rfl
  · exact .kept target h hd ((showStatus_situation hm text kind).symm ▸ h) rfl
  · exact .kept target h (hn.trans hd) (hs ▸ h) hx

theorem Invariant.turn (h : Invariant s) (he : Enabled s e) : Turn b s e := by
  rcases h with h | ⟨hd, target, h⟩
  · exact quiet_turn h he
  · exact asking_turn h hd he

theorem Invariant.next (h : Invariant s) (he : Enabled s e) : Invariant (next b s e) := by
  cases h.turn (b := b) he with
  | quiet _ after => exact .inl after
  | asked _ _ target _ _ _ _ _ idle after => exact .inr ⟨idle, target, after⟩
  | kept target _ idle after => exact .inr ⟨idle, target, after⟩
  | answered _ _ after => exact .inl after

/-- The dialog has been open for the target since a delete key was pressed on its row. -/
def AskedFor (b : Backend S TablePage J) (s : Desk S J) (events : List (Event S))
    (target : Target) : Prop :=
  ∃ before key since row, events = before ++ .press key :: since ∧
    let asking := (runTrace b s before).board
    key.action? asking.mode = some .delete ∧
      asking.page.view.selectedRow? = some row ∧
      Target.ofRow? asking.page.kind row = some target ∧
      ∀ passed, passed <+: since →
        (runTrace b s (before ++ .press key :: passed)).board.top.layer =
          .confirm (deletePrompt target)

theorem AskedFor.cons {events : List (Event S)} (h : AskedFor b (Desk.next b s e) events target) :
    AskedFor b s (e :: events) target := by
  obtain ⟨before, key, since, row, rfl, h⟩ := h
  exact ⟨e :: before, key, since, row, rfl, h⟩

theorem asking_since {events : List (Event S)} (h : Invariant s) (valid : ValidTrace b s events)
    (ha : (runTrace b s events).board.situation.Asking target) :
    AskedFor b s events target ∨
      ∀ passed, passed <+: events → (runTrace b s passed).board.situation.Asking target := by
  induction events generalizing s with
  | nil =>
    refine .inr fun passed hp => ?_
    rw [List.prefix_nil.mp hp]
    exact ha
  | cons e events ih =>
    -- from the front: the dialog that is open at the end is asked for later, or is open already
    rcases ih (h.next valid.1) valid.2 ha with hasked | hopen
    · exact .inl hasked.cons
    have hn : (Desk.next b s e).board.situation.Asking target := hopen [] List.nil_prefix
    cases h.turn (b := b) valid.1 with
    | quiet _ after => exact absurd hn.mode after.mode
    | answered _ _ after => exact absurd hn.mode after.mode
    | asked key row asked pressed meant selected named _ _ after =>
      obtain rfl : asked = target := Option.some.inj (after.pending.symm.trans hn.pending)
      subst pressed
      exact .inl ⟨[], key, events, row, rfl, meant, selected, named,
        fun passed hp => (hopen passed hp).top⟩
    | kept asked before _ after =>
      obtain rfl : asked = target := Option.some.inj (after.pending.symm.trans hn.pending)
      refine .inr fun passed hp => ?_
      cases passed with
      | nil => exact before
      | cons first passed =>
        obtain ⟨rfl, hq⟩ := List.cons_prefix_cons.mp hp
        exact hopen passed hq

/-- Deletions are paid for by delete keys; an open question is one that is paid in advance. -/
theorem Invariant.deletions_step (h : Invariant s) (he : Enabled s e) :
    (deletions s e).length + (Desk.next b s e).board.pendingDelete.toList.length ≤
      (asks s e).length + s.board.pendingDelete.toList.length := by
  have none_of_quiet : ∀ {d : Dashboard S J}, d.situation.Quiet → d.pendingDelete = none :=
    fun hq => hq.pending
  have some_of_asking : ∀ {d : Dashboard S J} {target}, d.situation.Asking target →
      d.pendingDelete = some target := fun hq => hq.pending
  cases h.turn (b := b) he with
  | quiet before after nothing =>
    rw [nothing, none_of_quiet after]
    simp
  | asked key row target pressed meant _ _ before _ after nothing =>
    subst pressed
    rw [nothing, some_of_asking after, asks, if_pos meant]
    simp
  | kept target before _ after nothing =>
    rw [nothing, some_of_asking before, some_of_asking after]
    simp
  | answered target before after said =>
    rw [none_of_quiet after, some_of_asking before]
    rcases said with hn | ⟨key, -, -, hn⟩ <;> simp [hn]

theorem Invariant.deletions_paid {events : List (Event S)} (h : Invariant s)
    (valid : ValidTrace b s events) :
    (deletionsAlong b s events).length +
        (runTrace b s events).board.pendingDelete.toList.length ≤
      (asksAlong b s events).length + s.board.pendingDelete.toList.length := by
  induction events generalizing s with
  | nil => simp [Trace.gather, Trace.run]
  | cons e events ih =>
    have hs := h.deletions_step (b := b) valid.1
    have hr := ih (h.next valid.1) valid.2
    simp only [deletionsAlong, asksAlong, runTrace, Trace.gather, Trace.run,
      List.length_append] at hr ⊢
    omega

/-- At every moment of every run the mode, the waiting target and the dialog agree; a key has a
target deleted only as the answer yes to its dialog, which has been open since it was asked for on
the selected row; and no stretch of a run has more deletions than delete keys, but for a dialog
that was open before. -/
theorem deletions_confirmed {settings : Settings} {catalog : Catalog} {scope : Scope}
    {cluster context : String} {source : S} {start : Dashboard S J}
    (opened : start? settings catalog scope cluster context source = some start)
    {earlier later : List (Event S)} (valid : ValidTrace b ⟨start, .none⟩ (earlier ++ later)) :
    let s := runTrace b ⟨start, .none⟩ earlier
    ((s.board.mode = .confirm ↔ s.board.top.layer.isConfirm = true) ∧
      (s.board.mode = .confirm ↔ s.board.pendingDelete.isSome = true) ∧
      ∀ target, s.board.pendingDelete = some target →
        s.board.top.layer = .confirm ("Delete " ++ target.label ++ "?")) ∧
    (∀ key target, (s.board.press key).2 = .delete target →
      key.action? s.board.mode = some .confirmYes ∧
        s.board.top.layer = .confirm ("Delete " ++ target.label ++ "?") ∧
        AskedFor b ⟨start, .none⟩ earlier target) ∧
    (deletionsAlong b s later).length ≤
      (asksAlong b s later).length + (if s.board.pendingDelete.isSome then 1 else 0) := by
  intro s
  obtain ⟨past, future⟩ := Trace.valid_append.mp valid
  have hq : (⟨start, .none⟩ : Desk S J).board.situation.Quiet := start_quiet opened
  have hi : Invariant (⟨start, .none⟩ : Desk S J) := .inl hq
  have h : Invariant s := Trace.run_induction hi (fun _ _ he hi => hi.next he) past
  refine ⟨?_, ?_, ?_⟩
  · rcases h with h | ⟨-, target, h⟩
    · have hm : s.board.mode ≠ .confirm := h.mode
      have ht : s.board.top.layer.isConfirm = false := h.top
      have hp : s.board.pendingDelete = none := h.pending
      refine ⟨?_, ?_, ?_⟩
      · rw [ht]
        simp [hm]
      · rw [hp]
        simp [hm]
      · rw [hp]
        nofun
    · have hm : s.board.mode = .confirm := h.mode
      have ht : s.board.top.layer = .confirm (deletePrompt target) := h.top
      have hp : s.board.pendingDelete = some target := h.pending
      refine ⟨?_, ?_, ?_⟩
      · rw [hm, ht]
        exact ⟨fun _ => rfl, fun _ => rfl⟩
      · rw [hm, hp]
        exact ⟨fun _ => rfl, fun _ => rfl⟩
      · intro asked ha
        obtain rfl : target = asked := Option.some.inj (hp.symm.trans ha)
        exact ht
  · intro key target hd
    obtain ⟨ha, hw⟩ := press_delete hd
    rcases h with h | ⟨-, asked, h⟩
    · cases hw.symm.trans h.pending
    obtain rfl : target = asked := Option.some.inj (hw.symm.trans h.pending)
    refine ⟨ha, h.top, ?_⟩
    rcases asking_since hi past h with hasked | hopen
    · exact hasked
    -- nothing is asked of a dashboard that has just been opened
    · exact absurd (hopen [] List.nil_prefix).mode hq.mode
  · have hp := h.deletions_paid future
    cases hw : s.board.pendingDelete <;> simp [hw] at hp ⊢ <;> omega

def listed (names : List String) : Event TableSource :=
  let rows := names.map fun name => ⟨name, "default", []⟩
  .background (.edit 0 (·.onView (·.absorb { rows })))

/-- The first row is to be deleted, and is gone from the page before the answer; a refresh fails
in between. -/
def unsettling : List (Event TableSource) :=
  [listed ["web", "db"], .press ⟨.char 'd', { control := true }⟩, listed ["db"],
    .refreshEvent (.failed "pods" "timed out"), .uiEvent (.statusExpired 0)]

/-- The answer is yes, and no for the row that is selected now. -/
def settling : List (Event TableSource) :=
  [.press ⟨.char 'y', {}⟩, .perform {} {}, .press ⟨.char 'd', { control := true }⟩,
    .perform {} {}, .press ⟨.char 'n', {}⟩]

theorem deletions_confirmed_while_rows_change :
    ∃ start : Dashboard TableSource (Except Failure TableView),
      start? {} [] .all "kind" "kind" {} = some start ∧
      ValidTrace TableSource.backend ⟨start, .none⟩ (unsettling ++ settling) ∧
      let s := runTrace TableSource.backend ⟨start, .none⟩ unsettling
      deletionsAlong TableSource.backend s settling = [⟨"pods", "default", "web"⟩] ∧
        s.board.page.view.selectedRow? = some ⟨"db", "default", []⟩ ∧
        s.board.top.layer = .confirm "Delete pods/default/web?" ∧
        AskedFor TableSource.backend ⟨start, .none⟩ unsettling ⟨"pods", "default", "web"⟩ ∧
        (deletionsAlong TableSource.backend s settling).length ≤
          (asksAlong TableSource.backend s settling).length +
            (if s.board.pendingDelete.isSome then 1 else 0) := by
  have opened : start? {} [] .all "kind" "kind" {} =
    some (_ : Dashboard TableSource (Except Failure TableView)) := rfl
  have valid : ∀ start, start? {} [] .all "kind" "kind" {} = some start →
      ValidTrace TableSource.backend ⟨start, .none⟩ (unsettling ++ settling) := by
    intro start hs
    obtain rfl := Option.some.inj (opened.symm.trans hs)
    decide
  have h := deletions_confirmed opened (valid _ opened)
  have hd := h.2.1 ⟨.char 'y', {}⟩ ⟨"pods", "default", "web"⟩ rfl
  exact ⟨_, opened, valid _ opened, by decide, by decide, hd.2.1, hd.2.2, h.2.2⟩

end Desk
end ClusterDashboard.Dashboard
