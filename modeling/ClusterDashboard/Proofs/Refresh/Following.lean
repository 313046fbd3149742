import ClusterDashboard.Proofs.Refresh.Discipline
/-!
# The attached loop follows the page in view

While the navigator is in use and only the watcher attaches loops, either a notice that names the
current page is still to be read, or the attached loop serves the page in view. Notices that went
stale do no harm: the newest one always names the current page.
-/
namespace ClusterDashboard
namespace Session

variable {S P J : Type} {b : Backend S P J} {s t : Session S P J}

/-- Things that only a user of the coordinator itself can do. -/
def Event.isDirect : Event S P → Bool
  | .attach _ | .cancel _ | .shutdown | .closeEvents => true
  | _ => false

structure Outline.Following (o : Outline) : Prop where
  watching : o.inUse = true → o.watching = true
  listening : o.listening = true
  announced : ∀ last, o.nav.notices.getLast? = some last → last = o.nav.current
  attached : o.inUse = true → o.nav.notices = [] → o.loops ≠ [] →
    ∃ id, o.active = some id ∧ o.loops[id]? = some (o.nav.currentView, false)

def Outline.Told (o : Outline) : Prop := o.nav.notices ≠ [] ∨ o.loops ≠ []

theorem operate_outline (b : Backend S P J) (op : Navigator.Operation P) (s : Session S P J) :
    (next b s (.operate op)).outline = outline { s with nav := op.views.apply s.nav } := by
  simp only [next, withNav]
  split
  · rfl
  · exact wake_outline ..

/-- What an event that is not direct can do to the outline. -/
theorem outline_cases (b : Backend S P J) {e : Event S P} (hd : e.isDirect = false) :
    (next b s e).outline = s.outline ∨
    (∃ op, e = .operate op ∧
      (next b s e).outline = outline { s with nav := op.views.apply s.nav }) ∨
    (e = .poll .watcher ∧ next b s e = (s.dequeue .watcher).pollWatcher) ∨
    (e = .drop ∧ (next b s e).outline = { s.outline with inUse := false }) := by
  cases e with
  | operate op => exact .inr (.inl ⟨op, rfl, operate_outline b op s⟩)
  | trigger view => exact .inl (trigger_outline view s)
  | poll task =>
    cases task with
    | watcher => exact .inr (.inr (.inl ⟨rfl, rfl⟩))
    | loop id =>
      cases hl : s.loops[id]? with
      | none =>
        rw [(poll_absent hl).2]
        exact .inl rfl
      | some l => exact .inl (poll_turn hl).1.outline
  | resume id =>
    refine .inl ((wake_outline ..).trans (modifyLoop_outline (fun l => ?_) id s))
    cases l.phase <;> exact ⟨rfl, rfl⟩
  | supply source => exact .inl rfl
  | edit view change => exact .inl (modifyPage_outline ..)
  | takeEvents => exact .inl rfl
  | drop => exact .inr (.inr (.inr ⟨rfl, wake_outline ..⟩))
  | attach | cancel | shutdown | closeEvents => cases hd

/-- What an event that is direct leaves alone. -/
theorem direct_frame (b : Backend S P J) {e : Event S P} (hd : e.isDirect = true) :
    (next b s e).nav = s.nav ∧ (next b s e).inUse = s.inUse ∧
      (next b s e).watching = s.watching := by
  have same : ∀ {t : Session S P J}, t.surroundings = s.surroundings →
      t.nav = s.nav ∧ t.inUse = s.inUse ∧ t.watching = s.watching := by
    intro t ht
    obtain ⟨nav, -, inUse, watching, -⟩ := surroundings_eq ht
    exact ⟨nav, inUse, watching⟩
  cases e with
  | attach view => exact same (attach_surroundings view s)
  | cancel id => exact same (cancel_surroundings id s)
  | shutdown => exact same (shutdown_surroundings s)
  | closeEvents => exact ⟨rfl, rfl, rfl⟩
  | _ => cases hd

theorem shutdown_length (s : Session S P J) : s.shutdown.loops.length = s.loops.length := by
  unfold shutdown
  split
  · change (s.cancel _).loops.length = _
    unfold cancel
    dsimp only
    split
    · rw [wake_loops]
      exact List.length_modify ..
    · exact List.length_modify ..
  · rfl

theorem attach_adds (view : ViewId) (s : Session S P J) :
    (s.attach view).loops.length = s.loops.length + 1 ∧
      (s.attach view).active = some s.loops.length ∧
      (s.attach view).outline.loops[s.loops.length]? = some (view, false) := by
  rw [attach_eq, wake_loops, wake_active, wake_outline, ← shutdown_length s]
  simp [outline, joined]

theorem follows_attached {pages : List String} (h : pages.getLast? = some s.nav.current) :
    let t := pages.foldl (fun s page => s.follow page) s
    ∃ id, t.active = some id ∧ t.outline.loops[id]? = some (s.nav.currentView, false) := by
  intro t
  -- whatever the earlier notices attach, the newest one comes after them
  obtain ⟨earlier, rfl⟩ := List.getLast?_eq_some_iff.mp h
  have hn := (surroundings_eq (follows_surroundings earlier s)).1
  have ht : t = (earlier.foldl (fun s page => s.follow page) s).follow s.nav.current :=
    List.foldl_append ..
  rw [ht, follow, hn, if_pos rfl]
  exact ⟨_, (attach_adds s.nav.currentView _).2⟩

theorem follows_following {pages : List String} (hp : pages.getLast? = some s.nav.current)
    (he : s.nav.notices = []) (hw : s.inUse = true → s.watching = true)
    (hl : s.listening = true) :
    (pages.foldl (fun s page => s.follow page) s).outline.Following := by
  obtain ⟨hn, -, hu, hk, hs⟩ := surroundings_eq (follows_surroundings pages s)
  obtain ⟨id, ha, hv⟩ := follows_attached hp
  refine ⟨fun hx => hk.trans (hw (hu.symm.trans hx)), hs.trans hl, ?_, fun _ _ _ => ⟨id, ha, ?_⟩⟩
  · intro last ht
    change (pages.foldl (fun s page => s.follow page) s).nav.notices.getLast? = some last at ht
    rw [hn, he] at ht
    cases ht
  · change _ = some ((pages.foldl (fun s page => s.follow page) s).nav.currentView, false)
    rw [hn]
    exact hv

theorem operate_following (h : s.outline.Following) (hs : s.nav.Sound)
    (op : Navigator.Operation (View P)) :
    (outline { s with nav := op.apply s.nav }).Following := by
  have ha := hs.announced op
  by_cases ht : op.isReload = true ∨ (op.apply s.nav).current ≠ s.nav.current
  · have hn := ha.told ht
    refine ⟨h.watching, h.listening, ?_, ?_⟩
    · intro last hl
      change (op.apply s.nav).notices.getLast? = some last at hl
      rw [hn, List.getLast?_concat] at hl
      exact (Option.some.inj hl).symm
    · intro _ he
      change (op.apply s.nav).notices = [] at he
      rw [hn] at he
      exact absurd he (List.append_ne_nil_of_right_ne_nil _ nofun)
  · obtain ⟨hr, hc⟩ := not_or.mp ht
    have hv := ha.untold (eq_false_of_ne_true hr) (Decidable.not_not.mp hc)
    refine ⟨h.watching, h.listening, ?_, ?_⟩
    · intro last hl
      change (op.apply s.nav).notices.getLast? = some last at hl
      rw [hv.notices] at hl
      exact (h.announced last hl).trans hv.current.symm
    · intro hu he hl
      obtain ⟨id, hi, hw⟩ := h.attached hu (hv.notices.symm.trans he) hl
      refine ⟨id, hi, hw.trans ?_⟩
      exact congrArg (fun view => some (view, false)) hv.currentView.symm

/-- All notices have been read. -/
def caughtUp (s : Session S P J) : Session S P J := { s with nav := { s.nav with notices := [] } }

theorem caughtUp_self (h : s.nav.notices = []) : s.caughtUp = s := by
  rw [caughtUp, ← h]

theorem pollWatcher_eq (s : Session S P J) :
    s.pollWatcher =
      if !s.watching then s
      else if !s.inUse then { s.shutdown with watching := false }
      else s.nav.notices.foldl (fun s page => s.follow page) s.caughtUp := rfl

/-- Without a notice to read the watcher does nothing. -/
theorem pollWatcher_read (alive : s.inUse = true) (read : s.nav.notices = []) :
    s.pollWatcher = s := by
  rw [pollWatcher_eq, alive, read, List.foldl_nil, caughtUp_self read]
  cases s.watching <;> rfl

theorem pollWatcher_nav (s : Session S P J) :
    s.pollWatcher.nav =
      if s.watching = true ∧ s.inUse = true then s.caughtUp.nav else s.nav := by
  rw [pollWatcher_eq]
  split
  · next hw => exact (if_neg (by simp_all)).symm
  split
  · next hu => exact (shutdown_nav s).trans (if_neg (by simp_all)).symm
  · next hw hu =>
    rw [if_pos (by simp_all)]
    exact (surroundings_eq (follows_surroundings s.nav.notices s.caughtUp)).1

theorem pollWatcher_inUse (s : Session S P J) : s.pollWatcher.inUse = s.inUse := by
  rw [pollWatcher_eq]
  split
  · rfl
  split
  · exact (surroundings_eq (shutdown_surroundings s)).2.2.1
  · exact (surroundings_eq (follows_surroundings s.nav.notices s.caughtUp)).2.2.1

/-- The watcher goes only when the navigator has. -/
theorem pollWatcher_watching (alive : s.inUse = true) :
    s.pollWatcher.watching = s.watching := by
  rw [pollWatcher_eq, alive]
  split
  · rfl
  · exact (surroundings_eq (follows_surroundings s.nav.notices s.caughtUp)).2.2.2.1

/-- A navigator that has been given up does not come back. -/
theorem next_inUse {e : Event S P} (alive : (next b s e).inUse = true) : s.inUse = true := by
  cases hd : e.isDirect with
  | true => exact (direct_frame b hd).2.1.symm.trans alive
  | false =>
    rcases outline_cases (s := s) b hd with ho | ⟨op, -, ho⟩ | ⟨-, hn⟩ | ⟨-, ho⟩
    · exact (congrArg Outline.inUse ho).symm.trans alive
    · exact (congrArg Outline.inUse ho).symm.trans alive
    · rw [hn, pollWatcher_inUse] at alive
      exact alive
    · cases (congrArg Outline.inUse ho).symm.trans alive

theorem pollWatcher_cases (h : s.outline.Following) :
    s.pollWatcher = s ∨
    s.inUse = false ∧ s.pollWatcher = { s.shutdown with watching := false } ∨
    s.nav.notices.getLast? = some s.nav.current ∧
      s.pollWatcher = s.nav.notices.foldl (fun s page => s.follow page) s.caughtUp := by
  rw [pollWatcher_eq]
  split
  · exact .inl rfl
  split
  · next hu => exact .inr (.inl ⟨by simpa using hu, rfl⟩)
  · cases hl : s.nav.notices.getLast? with
    | none =>
      have he := List.getLast?_eq_none_iff.mp hl
      rw [caughtUp_self he, he]
      exact .inl rfl
    | some last =>
      rw [h.announced last hl]
      exact .inr (.inr ⟨rfl, rfl⟩)

theorem pollWatcher_following (h : s.outline.Following) : s.pollWatcher.outline.Following := by
  rcases pollWatcher_cases h with hs | ⟨hu, hs⟩ | ⟨hl, hs⟩ <;> rw [hs]
  · exact h
  · obtain ⟨hn, -, hi, -, hk⟩ := surroundings_eq (shutdown_surroundings s)
    have hf : s.shutdown.inUse = false := hi.trans hu
    refine ⟨?_, hk.trans h.listening, ?_, ?_⟩
    · intro ht
      cases hf.symm.trans ht
    · intro last ht
      change s.shutdown.nav.notices.getLast? = some last at ht
      change last = s.shutdown.nav.current
      rw [hn] at ht ⊢
      exact h.announced last ht
    · intro ht
      cases hf.symm.trans ht
  · exact follows_following hl rfl h.watching h.listening

theorem next_following {e : Event S P} (h : s.outline.Following) (hs : s.nav.Sound)
    (hd : e.isDirect = false) : (next b s e).outline.Following := by
  rcases outline_cases b hd with ho | ⟨op, rfl, ho⟩ | ⟨rfl, hn⟩ | ⟨rfl, ho⟩
  · rw [ho]
    exact h
  · rw [ho]
    exact operate_following h hs op.views
  · rw [hn]
    exact pollWatcher_following h
  · rw [ho]
    exact ⟨nofun, h.listening, h.announced, nofun⟩

theorem outline_length (s : Session S P J) : s.outline.loops.length = s.loops.length :=
  List.length_map ..

theorem outline_loops_nil : s.outline.loops = [] ↔ s.loops = [] := List.map_eq_nil_iff

theorem outline_loop {id : LoopId} {view : ViewId} {cancelled : Bool} :
    s.outline.loops[id]? = some (view, cancelled) ↔
      ∃ l, s.loops[id]? = some l ∧ l.view = view ∧ l.cancelled = cancelled := by
  simp [outline]

theorem pollWatcher_told (h : s.outline.Following) :
    s.pollWatcher.outline.Told ↔ s.outline.Told := by
  rcases pollWatcher_cases h with hs | ⟨-, hs⟩ | ⟨hl, hs⟩ <;> rw [hs]
  · have hl : s.shutdown.outline.loops = [] ↔ s.outline.loops = [] := by
      rw [outline_loops_nil, outline_loops_nil, ← List.length_eq_zero_iff, shutdown_length,
        List.length_eq_zero_iff]
    change s.shutdown.nav.notices ≠ [] ∨ s.shutdown.outline.loops ≠ [] ↔ s.outline.Told
    rw [shutdown_nav]
    exact or_congr Iff.rfl (not_congr hl)
  · obtain ⟨id, -, hv⟩ := follows_attached (s := s.caughtUp) hl
    refine iff_of_true (.inr (List.ne_nil_of_mem (List.mem_of_getElem? hv))) (.inl ?_)
    intro he
    change s.nav.notices = [] at he
    rw [he] at hl
    cases hl

theorem operate_told (hs : s.nav.Sound) (op : Navigator.Operation (View P)) :
    (outline { s with nav := op.apply s.nav }).Told ↔
      s.outline.Told ∨ op.isReload = true ∨ (op.apply s.nav).current ≠ s.nav.current := by
  change (op.apply s.nav).notices ≠ [] ∨ s.outline.loops ≠ [] ↔
    (s.nav.notices ≠ [] ∨ s.outline.loops ≠ []) ∨ _
  rw [hs.notices_apply op, or_right_comm]

/-- Once something has been announced it stays so, and only a reload or a change of the page
announces anything. -/
theorem next_told {e : Event S P} (h : s.outline.Following) (hs : s.nav.Sound)
    (hd : e.isDirect = false) :
    (next b s e).outline.Told ↔ s.outline.Told ∨ (∃ f, e = .operate (.reload f)) ∨
      (next b s e).nav.current ≠ s.nav.current := by
  by_cases hop : ∃ op, e = .operate op
  · obtain ⟨op, rfl⟩ := hop
    have ho := operate_outline b op s
    have hc : (next b s (.operate op)).nav.current = (op.views.apply s.nav).current :=
      congrArg (fun o : Outline => o.nav.current) ho
    have hr : op.views.isReload = true ↔ ∃ f, (.operate op : Event S P) = .operate (.reload f) := by
      rw [op.views_isReload]
      cases op <;> simp [Navigator.Operation.isReload]
    rw [ho, hc, ← hr]
    exact operate_told hs op.views
  have still : (next b s e).nav.current = s.nav.current →
      ((next b s e).outline.Told ↔ s.outline.Told) → ((next b s e).outline.Told ↔ s.outline.Told ∨
        (∃ f, e = .operate (.reload f)) ∨ (next b s e).nav.current ≠ s.nav.current) := by
    intro hc ht
    rw [ht]
    refine (or_iff_left ?_).symm
    rintro (⟨f, hf⟩ | hx)
    · exact hop ⟨_, hf⟩
    · exact hx hc
  rcases outline_cases b hd with ho | ⟨op, rfl, -⟩ | ⟨rfl, hn⟩ | ⟨rfl, ho⟩
  · exact still (congrArg (fun o : Outline => o.nav.current) ho) (by rw [ho])
  · exact absurd ⟨op, rfl⟩ hop
  · refine still ?_ ?_
    · rw [hn, pollWatcher_nav]
      split <;> rfl
    · rw [hn]
      exact pollWatcher_told h
  · refine still (congrArg (fun o : Outline => o.nav.current) ho) ?_
    rw [ho]
    exact Iff.rfl

/-- What holds as long as only the watcher attaches loops and their events are received. -/
structure Supervised (s : Session S P J) : Prop extends Invariant s where
  following : s.outline.Following
  ended_cancelled : ∀ (id : LoopId) l, s.loops[id]? = some l → l.phase.isEnded = true →
    l.cancelled = true

theorem Supervised.next (h : Supervised s) {e : Event S P} (he : Enabled s e)
    (hd : e.isDirect = false) : Supervised (next b s e) := by
  refine ⟨h.toInvariant.next he, next_following h.following h.sound hd, ?_⟩
  intro id m hm hx
  obtain ⟨l, hl, hc⟩ := h.ended_cases he hm hx
  have stays : l.cancelled = true → m.cancelled = true := by
    intro hlc
    obtain ⟨m', hm', hc'⟩ := h.cancelled_stays (b := b) he hl hlc
    obtain rfl : m' = m := Option.some.inj (hm'.symm.trans hm)
    exact hc'
  rcases hc with hc | ⟨-, hc | ⟨hn, -⟩⟩
  · exact stays (h.ended_cancelled id l hl hc)
  · exact stays hc
  · have hs : s.listening = true := h.following.listening
    cases hn.symm.trans hs

theorem Supervised.along (h : Supervised s) {events : List (Event S P)}
    (valid : ValidTrace b s events) (driven : ∀ e ∈ events, e.isDirect = false) :
    Supervised (runTrace b s events) := by
  induction events generalizing s with
  | nil => exact h
  | cons e events ih =>
    obtain ⟨hd, hds⟩ := List.forall_mem_cons.mp driven
    exact ih (h.next valid.1 hd) valid.2 hds

theorem Supervised.told_along (h : Supervised s) (told : s.outline.Told) {events : List (Event S P)}
    (valid : ValidTrace b s events) (driven : ∀ e ∈ events, e.isDirect = false) :
    (runTrace b s events).outline.Told := by
  induction events generalizing s with
  | nil => exact told
  | cons e events ih =>
    obtain ⟨hd, hds⟩ := List.forall_mem_cons.mp driven
    have next : (Session.next b s e).outline.Told :=
      (next_told h.following h.sound hd).mpr (.inl told)
    exact ih (h.next valid.1 hd) next valid.2 hds

section Start

variable {f : Factory P} {root : String} {source : S}

theorem start_following (h : Session.start? f root source = some s) :
    s.outline.Following := by
  obtain ⟨n, hn, rfl⟩ := Option.map_eq_some_iff.mp h
  obtain ⟨page, -, rfl⟩ := Navigator.start_eq hn
  refine ⟨fun _ => rfl, rfl, ?_, fun _ _ hl => absurd rfl hl⟩
  intro last hl
  change ((Navigator.opening root page).shown root .table).notices.getLast? = some last at hl
  change last = ((Navigator.opening root page).shown root .table).current
  unfold Navigator.shown at hl ⊢
  split at hl
  · cases hl
  · next hc =>
    rw [if_neg hc]
    exact (Option.some.inj hl).symm

theorem start_supervised (h : Session.start? f root source = some s) : Supervised s := by
  refine ⟨start_invariant h, start_following h, ?_⟩
  intro id l hl
  rw [start_loops h] at hl
  cases hl

theorem start_told (h : Session.start? f root source = some s) :
    s.outline.Told ↔ s.nav.current ≠ "" := by
  obtain ⟨n, hn, rfl⟩ := Option.map_eq_some_iff.mp h
  obtain ⟨page, -, rfl⟩ := Navigator.start_eq hn
  change ((Navigator.opening root page).shown root .table).notices ≠ [] ∨ [] ≠ [] ↔
    ((Navigator.opening root page).shown root .table).current ≠ ""
  unfold Navigator.shown
  split
  · simp [Navigator.opening]
  · next hc =>
    have hr : root ≠ "" := Ne.symm hc
    simpa [Navigator.notify] using hr

theorem start_current (h : Session.start? f root source = some s) : s.nav.current = root := by
  obtain ⟨n, hn, rfl⟩ := Option.map_eq_some_iff.mp h
  obtain ⟨page, -, rfl⟩ := Navigator.start_eq hn
  rw [Navigator.shown]
  split
  · next same => exact same
  · rfl

/-- The page that a session opens on is announced, for it has a name. -/
theorem start_announced (h : Session.start? f root source = some s) (named : root ≠ "") :
    s.outline.Told := by
  rw [start_told h, start_current h]
  exact named

end Start

end Session
end ClusterDashboard
