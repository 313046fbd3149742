import ClusterDashboard.Proofs.Refresh.Handover
import ClusterDashboard.Proofs.Refresh.Settling
/-!
# No task is left asleep

Whatever gives a task something to do wakes it as well: a request wakes the loop that listens for
it, the receiver the one it passes to, a cancellation a loop that waits, a notice the watcher. So
where no task is ready none could take a step, in any run, and to settle is to become quiescent.
-/
namespace ClusterDashboard
namespace Session

variable {S P J : Type} {b : Backend S P J} {s t u : Session S P J} {e : Event S P}
variable {id other : LoopId} {view : ViewId} {task : Task}

/-- A task that is not ready has nothing to do. -/
structure Alert (s : Session S P J) : Prop where
  loops : ∀ (id : LoopId) l, s.loops[id]? = some l →
    .loop id ∈ s.ready ∨ restsIn (s.channel l.view) id l = true
  watcher : .watcher ∈ s.ready ∨ s.watching = false ∨ s.inUse = true ∧ s.nav.notices = []

theorem Alert.quiescent (h : Alert s) (idle : s.ready = []) : Quiescent b s := by
  rintro (_ | id)
  · change s.pollWatcher = s
    rcases h.watcher with ready | gone | ⟨alive, read⟩
    · rw [idle] at ready
      cases ready
    · rw [pollWatcher_eq, gone]
      rfl
    · exact pollWatcher_read alive read
  · change s.pollLoop b id = s
    cases hl : s.loops[id]? with
    | none => rw [pollLoop, hl]
    | some l =>
      rcases h.loops id l hl with ready | rests
      · rw [idle] at ready
        cases ready
      · exact pollLoop_rests hl rests

theorem mem_wake (task : Task) (s : Session S P J) : task ∈ (s.wake task).ready := by
  unfold wake
  split
  · next there => exact there
  · exact List.mem_append_right _ (List.mem_singleton_self task)

theorem mem_wake_of_mem {woken : Task} (h : task ∈ s.ready) : task ∈ (s.wake woken).ready := by
  unfold wake
  split
  · exact h
  · exact List.mem_append_left _ h

/-- A loop goes on resting if nothing that it waits for comes to it. -/
theorem restsIn_mono {c d : Channel} {l : Loop J} (h : restsIn c id l = true)
    (pending : l.phase = .listening → d.pending = true → c.pending = true)
    (holder : d.holder = some id → c.holder = some id) : restsIn d id l = true := by
  cases hp : l.phase with
  | starting => simp [restsIn, hp] at h
  | refreshing job parked => cases parked <;> simp [restsIn, hp] at h ⊢
  | ended => simp [restsIn, hp]
  | queued =>
    simp only [restsIn, hp, Bool.and_eq_true, Bool.not_eq_true', bne_iff_ne] at h ⊢
    exact ⟨h.1, fun comes => h.2 (holder comes)⟩
  | listening =>
    simp only [restsIn, hp, Bool.and_eq_true, Bool.not_eq_true'] at h ⊢
    refine ⟨h.1, eq_false_of_ne_true fun comes => ?_⟩
    cases h.2.symm.trans (pending hp comes)

/-- A loop that waits neither for the receiver nor for a request pays no heed to the channel, nor to
being cancelled. -/
theorem restsIn_of_unwaiting {c d : Channel} {l m : Loop J} (h : restsIn c id l = true)
    (phase : m.phase = l.phase) (waits : l.phase.wakesOnCancel = false) :
    restsIn d id m = true := by
  cases hp : l.phase with
  | queued | listening => simp [hp, Phase.wakesOnCancel] at waits
  | starting => simp [restsIn, hp] at h
  | refreshing job parked => cases parked <;> simp [restsIn, hp, phase] at h ⊢
  | ended => simp [restsIn, hp, phase]

/-- Any task but the one whose turn it is stays ready, and a loop that is not ready is no worse off
than it was. -/
structure Heeds (e : Event S P) (s t : Session S P J) : Prop where
  woken : ∀ task, e ≠ .poll task → task ∈ s.ready → task ∈ t.ready
  calm : ∀ (id : LoopId) m, e ≠ .poll (.loop id) → t.loops[id]? = some m →
    .loop id ∈ t.ready ∨ ∃ l, s.loops[id]? = some l ∧
      (restsIn (s.channel l.view) id l = true → restsIn (t.channel m.view) id m = true)

namespace Heeds

theorem trans (h : Heeds e s t) (k : Heeds e t u) : Heeds e s u := by
  refine ⟨fun task he ready => k.woken task he (h.woken task he ready), fun id n he hn => ?_⟩
  rcases k.calm id n he hn with ready | ⟨m, hm, later⟩
  · exact .inl ready
  · rcases h.calm id m he hm with ready | ⟨l, hl, first⟩
    · exact .inl (k.woken _ he ready)
    · exact .inr ⟨l, hl, fun rests => later (first rests)⟩

theorem of_same (ready : ∀ task, e ≠ .poll task → task ∈ s.ready → task ∈ t.ready)
    (loops : t.loops = s.loops) (channels : ∀ v, t.channel v = s.channel v) : Heeds e s t where
  woken := ready
  calm id m _ hm := .inr ⟨m, loops ▸ hm, by rw [channels]; exact fun rests => rests⟩

theorem refl (s : Session S P J) : Heeds e s s :=
  of_same (fun _ _ ready => ready) rfl fun _ => rfl

theorem wake (task : Task) (s : Session S P J) : Heeds e s (s.wake task) :=
  of_same (fun _ _ => mem_wake_of_mem) (wake_loops ..) fun _ => wake_channel ..

theorem dequeue (task : Task) (s : Session S P J) : Heeds (.poll task) s (s.dequeue task) := by
  refine of_same (fun other he ready => ?_) rfl fun _ => rfl
  have ho : other ≠ task := by
    rintro rfl
    exact he rfl
  exact (List.mem_erase_of_ne ho).mpr ready

theorem modifyPage (view : ViewId) (change : P → P) (s : Session S P J) :
    Heeds e s (s.modifyPage view change) :=
  of_same (fun _ _ ready => ready) rfl fun _ => modifyPage_channel ..

theorem setPhase (phase : Phase J) (s : Session S P J) :
    Heeds (.poll (.loop id)) s (s.setPhase id phase) := by
  refine ⟨fun _ _ ready => ready, fun other m he hm => ?_⟩
  have ho : other ≠ id := by
    rintro rfl
    exact he rfl
  rw [setPhase_loops_of_ne ho] at hm
  exact .inr ⟨m, hm, fun rests => rests⟩

/-- Only the loop whose turn it is may have the receiver come to it unasked. -/
theorem modifyChannel {change : Channel → Channel} (s : Session S P J)
    (pending : (change (s.channel view)).pending = true → (s.channel view).pending = true)
    (holder : ∀ other, other ≠ id → (change (s.channel view)).holder = some other →
      (s.channel view).holder = some other) :
    Heeds (.poll (.loop id)) s (s.modifyChannel view change) := by
  refine ⟨fun _ _ ready => ready, fun other m he hm => .inr ⟨m, hm, fun rests => ?_⟩⟩
  have ho : other ≠ id := by
    rintro rfl
    exact he rfl
  by_cases hv : m.view = view
  · subst hv
    rw [modifyChannel_self]
    split
    · exact restsIn_mono rests (fun _ => pending) (holder other ho)
    · exact rests
  · rw [modifyChannel_of_ne hv]
    exact rests

theorem leaveChannel (id : LoopId) (view : ViewId) (s : Session S P J) :
    Heeds (.poll (.loop id)) s (s.leaveChannel id view) := by
  unfold Session.leaveChannel
  dsimp only
  split
  · split
    · exact modifyChannel s (fun comes => comes) (fun _ _ comes => nomatch comes)
    -- the receiver passes to a loop that waits for it, and that loop is woken
    · next next rest waiting =>
      refine ⟨fun _ _ there => mem_wake_of_mem there, fun other m _ hm => ?_⟩
      rw [wake_loops] at hm
      by_cases hn : other = next
      · subst hn
        exact .inl (mem_wake ..)
      · refine .inr ⟨m, hm, fun rests => ?_⟩
        rw [wake_channel]
        by_cases hv : m.view = view
        · subst hv
          rw [modifyChannel_self]
          split
          · refine restsIn_mono rests (fun _ comes => comes) fun comes => ?_
            exact absurd (Option.some.inj comes).symm hn
          · exact rests
        · rw [modifyChannel_of_ne hv]
          exact rests
  · exact modifyChannel s (fun comes => comes) (fun _ _ comes => comes)

theorem endLoop (id : LoopId) (view : ViewId) (s : Session S P J) :
    Heeds (.poll (.loop id)) s (s.endLoop id view) :=
  (setPhase .ended s).trans (leaveChannel id view _)

theorem conclude (id : LoopId) (view : ViewId) (job : J) (s : Session S P J) :
    Heeds (.poll (.loop id)) s (s.conclude b id view job) := by
  cases hp : s.page? view with
  | none => simpa only [Session.conclude, hp] using endLoop id view s
  | some page =>
    rw [conclude_eq hp]
    refine (modifyPage view (fun _ => (b.complete page job).1) s).trans ?_
    dsimp only
    split
    · exact endLoop id view _
    · exact (setPhase .listening _).trans
        (of_same (fun _ _ ready => ready) rfl fun _ => rfl)

theorem takeUp (view : ViewId) (page : P) (s : Session S P J) :
    Heeds (.poll (.loop id)) s (s.takeUp b id view page) := by
  have taken : Heeds (.poll (.loop id)) s
      (s.modifyChannel view fun c => { c with pending := false }) :=
    modifyChannel s (fun comes => nomatch comes) fun _ _ comes => comes
  refine (taken.trans (modifyPage view (fun _ => (b.start s.source id view page).2.1) _)).trans ?_
  exact of_same (fun _ _ ready => ready) rfl fun _ => rfl

theorem listen (id : LoopId) (view : ViewId) (s : Session S P J) :
    Heeds (.poll (.loop id)) s (s.listen b id view) := by
  cases hp : s.page? view with
  | none =>
    simp only [Session.listen, hp]
    split
    · exact endLoop id view s
    · split
      · exact setPhase .listening s
      · exact endLoop id view s
  | some page =>
    rw [listen_eq hp]
    split
    · exact endLoop id view s
    split
    · exact setPhase .listening s
    split
    · exact (takeUp view page s).trans (setPhase _ _)
    · exact (takeUp view page s).trans (conclude id view _ _)

theorem pollLoop (b : Backend S P J) (id : LoopId) (s : Session S P J) :
    Heeds (.poll (.loop id)) s (s.pollLoop b id) := by
  cases hl : s.loops[id]? with
  | none => simpa only [Session.pollLoop, hl] using refl s
  | some l =>
    cases poll_step b hl with
    | rested _ same =>
      rw [same]
      exact refl s
    | ended _ ends =>
      rw [ends]
      exact endLoop id l.view s
    | listened _ listens =>
      rw [listens]
      exact listen id l.view s
    | claimed free _ claims =>
      have claimed : Heeds (.poll (.loop id)) s (s.claim id l.view) :=
        modifyChannel s (fun comes => comes) fun other ho comes =>
          absurd (Option.some.inj comes).symm ho
      rw [claims]
      exact claimed.trans (listen id l.view _)
    | queued _ _ _ waits =>
      have enqueued : Heeds (.poll (.loop id)) s
          (s.modifyChannel l.view fun c => { c with waiting := c.waiting ++ [id] }) :=
        modifyChannel s (fun comes => comes) fun _ _ comes => comes
      rw [waits]
      exact enqueued.trans (setPhase .queued _)
    | answered job _ answers =>
      have concluded := conclude (b := b) id l.view job s
      rw [answers]
      split
      · exact concluded
      · exact concluded.trans (listen id l.view _)

/-- A loop that is told to stop is woken if it waits, and otherwise would find out by itself. -/
theorem cancel (id : LoopId) (s : Session S P J) : Heeds e s (s.cancel id) := by
  have hc : s.cancel id = if (s.loops[id]?.map (·.phase.wakesOnCancel)).getD false
      then (s.modifyLoop id fun l => { l with cancelled := true }).wake (.loop id)
      else s.modifyLoop id fun l => { l with cancelled := true } := rfl
  have told : ∀ other m, (s.modifyLoop id fun l => { l with cancelled := true }).loops[other]? =
      some m → other ≠ id → s.loops[other]? = some m := by
    intro other m hm ho
    simpa [modifyLoop, Ne.symm ho] using hm
  rw [hc]
  split
  · refine ⟨fun _ _ there => mem_wake_of_mem there, fun other m _ hm => ?_⟩
    rw [wake_loops] at hm
    by_cases ho : other = id
    · subst ho
      exact .inl (mem_wake ..)
    · exact .inr ⟨m, told other m hm ho, by rw [wake_channel]; exact fun rests => rests⟩
  · next calm =>
    refine ⟨fun _ _ ready => ready, fun other m _ hm => .inr ?_⟩
    by_cases ho : other = id
    · subst ho
      have hs : (s.loops[other]?.map fun l => { l with cancelled := true }) = some m := by
        simpa [modifyLoop] using hm
      obtain ⟨l, hl, rfl⟩ := Option.map_eq_some_iff.mp hs
      have waits : l.phase.wakesOnCancel = false := by simpa [hl] using calm
      exact ⟨l, hl, fun rests => restsIn_of_unwaiting rests rfl waits⟩
    · exact ⟨m, told other m hm ho, fun rests => rests⟩

theorem shutdown (s : Session S P J) : Heeds e s s.shutdown := by
  unfold Session.shutdown
  split
  · exact (cancel _ s).trans (of_same (fun _ _ ready => ready) rfl fun _ => rfl)
  · exact refl s

theorem attach (view : ViewId) (s : Session S P J) : Heeds e s (s.attach view) := by
  rw [attach_eq]
  refine (shutdown s).trans ⟨fun _ _ there => mem_wake_of_mem there, fun id m _ hm => ?_⟩
  rw [wake_loops, joined_loops] at hm
  split at hm
  · next hi =>
    subst hi
    exact .inl (mem_wake ..)
  · exact .inr ⟨m, hm, by rw [wake_channel]; exact fun rests => rests⟩

theorem follows (pages : List String) (s : Session S P J) :
    Heeds e s (pages.foldl (fun s page => s.follow page) s) := by
  induction pages generalizing s with
  | nil => exact refl s
  | cons page pages ih =>
    refine trans ?_ (ih (s.follow page))
    unfold follow
    split
    · exact attach _ s
    · exact refl s

theorem pollWatcher (s : Session S P J) : Heeds e s s.pollWatcher := by
  rw [pollWatcher_eq]
  split
  · exact refl s
  split
  · exact (shutdown s).trans (of_same (fun _ _ ready => ready) rfl fun _ => rfl)
  · have caught : Heeds e s s.caughtUp := of_same (fun _ _ ready => ready) rfl fun _ => rfl
    exact caught.trans (follows _ _)

theorem resume (id : LoopId) (s : Session S P J) : Heeds e s (s.resume id) := by
  refine ⟨fun _ _ there => mem_wake_of_mem there, fun other m _ hm => ?_⟩
  by_cases ho : other = id
  · subst ho
    exact .inl (mem_wake ..)
  · refine .inr ⟨m, ?_, by rw [Session.resume, wake_channel]; exact fun rests => rests⟩
    rw [Session.resume, wake_loops] at hm
    simpa [modifyLoop, Ne.symm ho] using hm

theorem operate (op : Navigator.Operation P) (s : Session S P J) :
    Heeds e s (next b s (.operate op)) := by
  have channels := (Kept.operate op s).channels
  refine of_same (fun task _ ready => ?_) ?_ channels
  · simp only [Session.next, withNav]
    split
    · exact ready
    · exact mem_wake_of_mem ready
  · simp only [Session.next, withNav]
    split
    · rfl
    · exact wake_loops ..

/-- A request wakes the loop that listens for it: that loop has the receiver. -/
theorem trigger (hi : Invariant s) (hm : view < s.nav.views.length) :
    Heeds e s (s.trigger view).1 := by
  have requested := trigger_requested hm
  have ready : ∀ task ∈ s.ready, task ∈ (s.trigger view).1.ready := by
    intro task there
    unfold Session.trigger
    dsimp only
    split
    · exact there
    split
    · exact mem_wake_of_mem there
    · exact there
  refine ⟨fun task _ => ready task, fun id m _ hl => ?_⟩
  rw [requested.loops] at hl
  by_cases hv : m.view = view
  · subst hv
    by_cases hp : m.phase = .listening
    · have held := hi.receiver_held id m hl (hp ▸ rfl)
      cases asked : (s.channel m.view).pending with
      | true =>
        refine .inr ⟨m, hl, fun rests => ?_⟩
        rw [requested.here]
        exact restsIn_mono rests (fun _ _ => asked) fun comes => comes
      | false =>
        left
        have listens : (s.loops[id]?.map (·.phase.isListening)).getD false = true := by
          rw [hl, Option.map_some, hp]
          rfl
        have woken : (s.trigger m.view).1 =
            (s.modifyChannel m.view fun c => { c with pending := true }).wake (.loop id) := by
          simp only [Session.trigger, asked, held, Option.filter_some, Session.modifyChannel,
            listens, Bool.false_eq_true, if_false, if_true]
        rw [woken]
        exact mem_wake ..
    · refine .inr ⟨m, hl, fun rests => ?_⟩
      rw [requested.here]
      exact restsIn_mono rests (fun listens => absurd listens hp) fun comes => comes
  · rw [requested.elsewhere m.view hv]
    exact .inr ⟨m, hl, fun rests => rests⟩

end Heeds

theorem next_heeds (hi : Invariant s) (he : Enabled s e) : Heeds e s (next b s e) := by
  cases e with
  | operate op => exact .operate op s
  | trigger view => exact .trigger hi he
  | poll task =>
    cases task with
    | watcher => exact (Heeds.dequeue .watcher s).trans (.pollWatcher _)
    | loop id => exact (Heeds.dequeue (.loop id) s).trans (.pollLoop b id _)
  | resume id => exact .resume id s
  | edit view change => exact .modifyPage view change s
  | attach view => exact .attach view s
  | cancel id => exact .cancel id s
  | shutdown => exact .shutdown s
  | drop =>
    have given : Heeds .drop s { s with inUse := false } :=
      .of_same (fun _ _ ready => ready) rfl fun _ => rfl
    exact given.trans (.wake .watcher _)
  | supply | closeEvents | takeEvents =>
    exact .of_same (fun _ _ ready => ready) rfl fun _ => rfl

/-- The watcher has read all notices after its turn, or is gone. -/
theorem pollWatcher_rests (s : Session S P J) :
    s.pollWatcher.watching = false ∨
      s.pollWatcher.inUse = true ∧ s.pollWatcher.nav.notices = [] := by
  by_cases h : s.watching = true ∧ s.inUse = true
  · right
    rw [pollWatcher_inUse, pollWatcher_nav, if_pos h]
    exact ⟨h.2, rfl⟩
  · left
    rw [pollWatcher_eq]
    split
    · next gone => simpa using gone
    · next watching =>
      have watching : s.watching = true := by simpa using watching
      have unused : s.inUse = false := eq_false_of_ne_true fun alive => h ⟨watching, alive⟩
      rw [unused]
      rfl

namespace Alert

theorem next_loops (h : Alert s) (hi : Invariant s) (lined : s.Lined) (he : Enabled s e)
    {m : Loop J} (hm : (next b s e).loops[id]? = some m) :
    .loop id ∈ (next b s e).ready ∨ restsIn ((next b s e).channel m.view) id m = true := by
  by_cases own : e = .poll (.loop id)
  · subst own
    cases hl : s.loops[id]? with
    | none =>
      rw [(poll_absent hl).2] at hm
      cases hl.symm.trans hm
    | some l =>
      obtain ⟨k, hk, hv, -⟩ := loop_of_outline (poll_turn (b := b) hl).1.outline hm
      obtain rfl : l = k := Option.some.inj (hl.symm.trans hk)
      have hid : Invariant (s.dequeue (.loop id)) :=
        ⟨hi.sound, hi.only_active, hi.view_made, hi.receiver_held⟩
      have hd : (s.dequeue (.loop id)).Lined := ⟨lined.ordered, lined.members⟩
      rw [hv]
      exact .inr (poll_rests hid hd hl hm)
  · have heeds := next_heeds (b := b) hi he
    rcases heeds.calm id m own hm with ready | ⟨l, hl, rests⟩
    · exact .inl ready
    · exact (h.loops id l hl).imp (heeds.woken _ own) rests

theorem next_watcher (h : Alert s) (hi : Invariant s) (he : Enabled s e) :
    .watcher ∈ (next b s e).ready ∨ (next b s e).watching = false ∨
      (next b s e).inUse = true ∧ (next b s e).nav.notices = [] := by
  by_cases own : e = .poll .watcher
  · subst own
    exact .inr (pollWatcher_rests (s.dequeue .watcher))
  have woken := (next_heeds (b := b) hi he).woken .watcher own
  have stays (watching : (next b s e).watching = s.watching) (inUse : (next b s e).inUse = s.inUse)
      (read : s.nav.notices = [] → (next b s e).nav.notices = []) :
      .watcher ∈ (next b s e).ready ∨ (next b s e).watching = false ∨
        (next b s e).inUse = true ∧ (next b s e).nav.notices = [] := by
    rw [watching, inUse]
    exact h.watcher.imp woken (Or.imp_right (And.imp_right read))
  cases hd : e.isDirect with
  | true =>
    obtain ⟨nav, inUse, watching⟩ := direct_frame b hd
    exact stays watching inUse fun read => nav ▸ read
  | false =>
    rcases outline_cases (s := s) b hd with ho | ⟨op, rfl, ho⟩ | ⟨hp, -⟩ | ⟨rfl, -⟩
    · exact stays (congrArg Outline.watching ho) (congrArg Outline.inUse ho) fun read =>
        (congrArg (fun o : Outline => o.nav.notices) ho).trans read
    · by_cases read : (op.views.apply s.nav).notices = []
      · exact stays (congrArg Outline.watching ho) (congrArg Outline.inUse ho) fun _ =>
          (congrArg (fun o : Outline => o.nav.notices) ho).trans read
      · left
        simp only [Session.next, withNav]
        rw [if_neg (by simpa using read)]
        exact mem_wake ..
    · exact absurd hp own
    · exact .inl (mem_wake ..)

theorem next (h : Alert s) (hi : Invariant s) (lined : s.Lined) (he : Enabled s e) :
    Alert (Session.next b s e) :=
  ⟨fun _ _ hm => h.next_loops hi lined he hm, h.next_watcher hi he⟩

end Alert

/-- What holds of the loops and the turns they wait for, whoever meddles with them. -/
structure Wakeful (s : Session S P J) : Prop extends Invariant s where
  lined : s.Lined
  alert : Alert s

theorem Wakeful.next (h : Wakeful s) (he : Enabled s e) : Wakeful (Session.next b s e) :=
  ⟨h.toInvariant.next he, h.lined.next h.toInvariant he,
    h.alert.next h.toInvariant h.lined he⟩

theorem Wakeful.runTrace (h : Wakeful s) {events : List (Event S P)}
    (valid : ValidTrace b s events) : Wakeful (runTrace b s events) :=
  Trace.run_induction h (fun _ _ he hi => hi.next he) valid

theorem start_wakeful {f : Factory P} {root : String} {source : S}
    (h : Session.start? f root source = some s) : Wakeful s := by
  refine ⟨start_invariant h, start_lined h, ?_, ?_⟩
  · intro id l hl
    rw [start_loops h] at hl
    cases hl
  · obtain ⟨n, -, rfl⟩ := Option.map_eq_some_iff.mp h
    exact .inl List.mem_cons_self

/-- At any moment of any run, to settle is to become quiescent. -/
theorem Wakeful.settle (h : Wakeful s) (b : Backend S P J) :
    Wakeful (s.settle b) ∧ Quiescent b (s.settle b) := by
  have settled : Wakeful (s.settle b) :=
    (settle_reaches b s).induction h fun _ _ he hi => hi.next he.1
  exact ⟨settled, settled.alert.quiescent (settle_idle b s)⟩

end Session
end ClusterDashboard
