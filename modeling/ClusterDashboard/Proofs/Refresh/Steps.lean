import ClusterDashboard.Proofs.Refresh.Turns
/-!
# What each event does to the channels and the loops

A turn of a loop is accounted for by `Turn` and `Outcome`, and a request touches one channel.
Every other event is `Kept`: it leaves the channels as they are, begins no refresh, and can only
cancel loops, let a parked one go on, or attach a new one.
-/
namespace ClusterDashboard

namespace Phase

variable {J : Type}

/-- A parked refresh has its answer. -/
def answered : Phase J → Phase J
  | .refreshing job _ => .refreshing job false
  | phase => phase

@[simp] theorem answered_isRefreshing (phase : Phase J) :
    phase.answered.isRefreshing = phase.isRefreshing := by
  cases phase <;> rfl

@[simp] theorem answered_holdsReceiver (phase : Phase J) :
    phase.answered.holdsReceiver = phase.holdsReceiver := by
  cases phase <;> rfl

@[simp] theorem answered_isEnded (phase : Phase J) :
    phase.answered.isEnded = phase.isEnded := by
  cases phase <;> rfl

end Phase

/-- A loop may be cancelled and may get its answer, and nothing else happens to it. -/
structure Loop.Spared {J : Type} (l m : Loop J) : Prop where
  view : m.view = l.view
  cancelled : l.cancelled = true → m.cancelled = true
  phase : m.phase = l.phase ∨ m.phase = l.phase.answered

theorem Loop.Spared.refl {J : Type} (l : Loop J) : Loop.Spared l l := ⟨rfl, id, .inl rfl⟩

theorem Loop.Spared.trans {J : Type} {l m k : Loop J} (h : Loop.Spared l m) (hk : Loop.Spared m k) :
    Loop.Spared l k := by
  refine ⟨hk.view.trans h.view, fun hc => hk.cancelled (h.cancelled hc), ?_⟩
  have ha : l.phase.answered.answered = l.phase.answered := by cases l.phase <;> rfl
  rcases hk.phase with hp | hp <;> rcases h.phase with hq | hq <;> simp [hp, hq, ha]

namespace Session

variable {S P J : Type} {b : Backend S P J} {s t u : Session S P J}
variable {id : LoopId} {view : ViewId}

/-- The attached loop alone may be uncancelled. -/
def OnlyActive (s : Session S P J) : Prop :=
  ∀ id, s.isCancelled id = false → s.active = some id

structure Kept (s t : Session S P J) : Prop where
  sound : s.nav.Sound → t.nav.Sound
  made : s.nav.views.length ≤ t.nav.views.length
  channels : ∀ v, t.channel v = s.channel v
  loops : ∀ (id : LoopId) l, s.loops[id]? = some l → ∃ m, t.loops[id]? = some m ∧ Loop.Spared l m
  attached : ∀ (id : LoopId) m, s.loops[id]? = none → t.loops[id]? = some m →
    m.phase = .starting ∧ m.view < t.nav.views.length
  active : s.OnlyActive → t.OnlyActive
  events : t.events = s.events ∨ t.events = []

theorem isCancelled_eq {l : Loop J} (h : s.loops[id]? = some l) :
    s.isCancelled id = l.cancelled := by
  simp [isCancelled, h]

theorem loop_of_uncancelled (h : s.isCancelled id = false) :
    ∃ l, s.loops[id]? = some l ∧ l.cancelled = false := by
  cases hl : s.loops[id]? with
  | none => simp [isCancelled, hl] at h
  | some l => exact ⟨l, rfl, (isCancelled_eq hl).symm.trans h⟩

theorem sound_of_outline (h : t.outline = s.outline) (hs : s.nav.Sound) : t.nav.Sound := by
  have hn := congrArg Outline.nav h
  simp only [outline, Navigator.mk.injEq] at hn
  obtain ⟨root, current, history, pages, rootView, -, -, -, -⟩ := hn
  exact hs.of_same_course root current history pages rootView (made_of_outline h)

namespace Kept

theorem trans (h : Kept s t) (k : Kept t u) : Kept s u where
  sound hs := k.sound (h.sound hs)
  made := Nat.le_trans h.made k.made
  channels v := (k.channels v).trans (h.channels v)
  loops id l hl := by
    obtain ⟨m, hm, hlm⟩ := h.loops id l hl
    obtain ⟨n, hn, hmn⟩ := k.loops id m hm
    exact ⟨n, hn, hlm.trans hmn⟩
  attached id n hs hn := by
    cases hm : t.loops[id]? with
    | none => exact k.attached id n hm hn
    | some m =>
      obtain ⟨hp, hv⟩ := h.attached id m hs hm
      obtain ⟨n', hn', hk⟩ := k.loops id m hm
      obtain rfl : n' = n := Option.some.inj (hn'.symm.trans hn)
      refine ⟨?_, hk.view ▸ Nat.lt_of_lt_of_le hv k.made⟩
      rcases hk.phase with he | he <;> simp [he, hp, Phase.answered]
  active ha := k.active (h.active ha)
  events := by
    rcases k.events with he | he
    · rw [he]
      exact h.events
    · exact .inr he

theorem of_same_loops (hs : s.nav.Sound → t.nav.Sound)
    (hn : s.nav.views.length ≤ t.nav.views.length)
    (hc : ∀ v, t.channel v = s.channel v) (hl : t.loops = s.loops) (ha : t.active = s.active)
    (he : t.events = s.events ∨ t.events = []) : Kept s t where
  sound := hs
  made := hn
  channels := hc
  loops id l h := ⟨l, by rw [hl, h], .refl l⟩
  attached id m hs hm := by
    rw [hl, hs] at hm
    cases hm
  active h id hi := by
    rw [ha]
    exact h id (by simpa [isCancelled, hl] using hi)
  events := he

theorem refl (s : Session S P J) : Kept s s :=
  of_same_loops id (Nat.le_refl _) (fun _ => rfl) rfl rfl (.inl rfl)

theorem wake (task : Task) (s : Session S P J) : Kept s (s.wake task) :=
  of_same_loops (by rw [wake_nav]; exact id) (Nat.le_of_eq (by rw [wake_nav]))
    (fun _ => wake_channel ..) (wake_loops ..) (wake_active ..)
    (.inl (wake_events ..))

theorem modifyLoop (id : LoopId) {change : Loop J → Loop J} (hc : ∀ l, Loop.Spared l (change l))
    (s : Session S P J) : Kept s (s.modifyLoop id change) := by
  have hl : ∀ other, (s.modifyLoop id change).loops[other]? =
      if other = id then s.loops[other]?.map change else s.loops[other]? := by
    intro other
    by_cases ho : other = id
    · subst ho
      simp [Session.modifyLoop]
    · simp [Session.modifyLoop, ho, Ne.symm ho]
  refine ⟨fun hs => hs, Nat.le_refl _, fun _ => rfl, ?_, ?_, ?_, .inl rfl⟩
  · intro other l h
    rw [hl, h]
    split
    · exact ⟨change l, rfl, hc l⟩
    · exact ⟨l, rfl, .refl l⟩
  · intro other m hs hm
    rw [hl, hs] at hm
    split at hm <;> cases hm
  · intro ha other ho
    refine ha other ?_
    obtain ⟨m, hm, hmc⟩ := loop_of_uncancelled ho
    rw [hl] at hm
    split at hm
    · obtain ⟨l, hs, rfl⟩ := Option.map_eq_some_iff.mp hm
      rw [isCancelled_eq hs]
      cases hx : l.cancelled with
      | true => exact absurd ((hc l).cancelled hx) (by simp [hmc])
      | false => rfl
    · exact (isCancelled_eq hm).trans hmc

theorem cancel (id : LoopId) (s : Session S P J) : Kept s (s.cancel id) := by
  have hm : Kept s (s.modifyLoop id fun l => { l with cancelled := true }) := by
    apply modifyLoop
    intro l
    exact ⟨rfl, fun _ => rfl, .inl rfl⟩
  unfold Session.cancel
  dsimp only
  split
  · exact hm.trans (wake _ _)
  · exact hm

end Kept

theorem cancel_active (id : LoopId) (s : Session S P J) : (s.cancel id).active = s.active := by
  unfold cancel
  dsimp only
  split
  · rw [wake_active]
    rfl
  · rfl

theorem cancel_isCancelled (id : LoopId) (s : Session S P J) :
    (s.cancel id).isCancelled id = true := by
  have h : (s.modifyLoop id fun l => { l with cancelled := true }).isCancelled id = true := by
    cases hl : s.loops[id]? <;> simp [isCancelled, modifyLoop, hl]
  unfold cancel
  dsimp only
  split
  · simpa only [isCancelled, wake_loops] using h
  · exact h

theorem shutdown_cancels (h : s.OnlyActive) (id : LoopId) :
    s.shutdown.isCancelled id = true := by
  rw [← Bool.not_eq_false]
  intro hu
  cases ha : s.active with
  | none =>
    rw [shutdown, ha] at hu
    cases ha.symm.trans (h id hu)
  | some a =>
    have hu : (s.cancel a).isCancelled id = false := by simpa [shutdown, ha, isCancelled] using hu
    have hi := (Kept.cancel a s).active h id hu
    rw [cancel_active, ha] at hi
    cases hi
    cases (cancel_isCancelled id s).symm.trans hu

theorem Kept.shutdown (s : Session S P J) : Kept s s.shutdown := by
  cases ha : s.active with
  | none =>
    rw [Session.shutdown, ha]
    exact refl s
  | some a =>
    have hc := cancel a s
    have hs : s.shutdown = { s.cancel a with active := none } := by rw [Session.shutdown, ha]
    refine ⟨hs ▸ hc.sound, hs ▸ hc.made, hs ▸ hc.channels, hs ▸ hc.loops, hs ▸ hc.attached, ?_,
      hs ▸ hc.events⟩
    -- nothing is active afterwards, which is as it should be when every loop is cancelled
    intro h id hu
    cases (shutdown_cancels h id).symm.trans hu

/-- The loop that `attach` adds. -/
def joined (view : ViewId) (s : Session S P J) : Session S P J :=
  { s with loops := s.loops ++ [{ view }], active := some s.loops.length }

theorem attach_eq (view : ViewId) (s : Session S P J) :
    s.attach view = (s.shutdown.joined view).wake (.loop s.shutdown.loops.length) := rfl

theorem joined_loops (view : ViewId) (s : Session S P J) (id : LoopId) :
    (s.joined view).loops[id]? =
      if id = s.loops.length then some { view } else s.loops[id]? := by
  split
  · next h => simp [joined, h]
  · next h =>
    by_cases hi : id < s.loops.length
    · simp [joined, List.getElem?_append_left hi]
    · have hi : s.loops.length < id := Nat.lt_of_le_of_ne (Nat.le_of_not_lt hi) (Ne.symm h)
      have he : (s.joined view).loops.length ≤ id := by
        rw [joined, List.length_append]
        exact hi
      rw [List.getElem?_eq_none he, List.getElem?_eq_none (Nat.le_of_lt hi)]

theorem Kept.joined (hv : view < s.nav.views.length) (hc : ∀ id, s.isCancelled id = true) :
    Kept s (s.joined view) := by
  refine ⟨fun hs => hs, Nat.le_refl _, fun _ => rfl, ?_, ?_, ?_, .inl rfl⟩
  · intro id l hl
    have hi : id < s.loops.length := (List.getElem?_eq_some_iff.mp hl).1
    rw [joined_loops, if_neg (Nat.ne_of_lt hi)]
    exact ⟨l, hl, .refl l⟩
  · intro id m hs hm
    rw [joined_loops] at hm
    split at hm
    · cases hm
      exact ⟨rfl, hv⟩
    · cases hs.symm.trans hm
  · intro _ id hu
    obtain ⟨m, hm, hmc⟩ := loop_of_uncancelled hu
    rw [joined_loops] at hm
    split at hm
    · next hi => exact congrArg some hi.symm
    · cases (hc id).symm.trans ((isCancelled_eq hm).trans hmc)

/-- All but the loops and the turns they wait for. -/
def surroundings (s : Session S P J) : Session S P J :=
  { s with loops := [], active := none, ready := [] }

theorem surroundings_eq (h : t.surroundings = s.surroundings) :
    t.nav = s.nav ∧ t.source = s.source ∧ t.inUse = s.inUse ∧ t.watching = s.watching ∧
      t.listening = s.listening := by
  simp only [surroundings, mk.injEq] at h
  exact ⟨h.1, h.2.1, h.2.2.1, h.2.2.2.1, h.2.2.2.2.2.2.1⟩

theorem wake_surroundings (task : Task) (s : Session S P J) :
    (s.wake task).surroundings = s.surroundings := by
  obtain ⟨ready, h⟩ := wake_eq task s
  rw [h]
  rfl

theorem cancel_surroundings (id : LoopId) (s : Session S P J) :
    (s.cancel id).surroundings = s.surroundings := by
  unfold cancel
  dsimp only
  split
  · exact wake_surroundings _ _
  · rfl

theorem shutdown_surroundings (s : Session S P J) : s.shutdown.surroundings = s.surroundings := by
  unfold shutdown
  split
  · exact cancel_surroundings _ s
  · rfl

theorem attach_surroundings (view : ViewId) (s : Session S P J) :
    (s.attach view).surroundings = s.surroundings := by
  rw [attach_eq, wake_surroundings]
  exact shutdown_surroundings s

theorem follow_surroundings (page : String) (s : Session S P J) :
    (s.follow page).surroundings = s.surroundings := by
  unfold follow
  split
  · exact attach_surroundings _ s
  · rfl

theorem follows_surroundings (pages : List String) (s : Session S P J) :
    (pages.foldl (fun s page => s.follow page) s).surroundings = s.surroundings := by
  induction pages generalizing s with
  | nil => rfl
  | cons page pages ih => exact (ih _).trans (follow_surroundings page s)

theorem shutdown_nav (s : Session S P J) : s.shutdown.nav = s.nav :=
  (surroundings_eq (shutdown_surroundings s)).1

theorem follow_nav (page : String) (s : Session S P J) : (s.follow page).nav = s.nav :=
  (surroundings_eq (follow_surroundings page s)).1

theorem pollWatcher_source (s : Session S P J) : s.pollWatcher.source = s.source := by
  unfold pollWatcher
  split
  · rfl
  split
  · exact (surroundings_eq (shutdown_surroundings s)).2.1
  · exact (surroundings_eq (follows_surroundings _ _)).2.1

namespace Kept

theorem attach (ho : s.OnlyActive) (hv : view < s.nav.views.length) : Kept s (s.attach view) := by
  rw [attach_eq]
  refine ((shutdown s).trans (joined ?_ (shutdown_cancels ho))).trans (wake _ _)
  rw [shutdown_nav]
  exact hv

theorem follow (ho : s.OnlyActive) (hv : s.nav.currentView < s.nav.views.length) (page : String) :
    Kept s (s.follow page) := by
  unfold Session.follow
  split
  · exact attach ho hv
  · exact refl s

theorem follows (ho : s.OnlyActive) (hv : s.nav.currentView < s.nav.views.length)
    (pages : List String) : Kept s (pages.foldl (fun s page => s.follow page) s) := by
  induction pages generalizing s with
  | nil => exact refl s
  | cons page pages ih =>
    have hf := follow ho hv page
    exact hf.trans (ih (hf.active ho) (by rwa [follow_nav]))

theorem pollWatcher (ho : s.OnlyActive) (hv : s.nav.currentView < s.nav.views.length) :
    Kept s s.pollWatcher := by
  unfold Session.pollWatcher
  split
  · exact refl s
  split
  · exact (shutdown s).trans
      (of_same_loops id (Nat.le_refl _) (fun _ => rfl) rfl rfl (.inl rfl))
  · have hr : Kept s { s with nav := { s.nav with notices := [] } } :=
      of_same_loops (fun hs => hs.of_same_course rfl rfl rfl rfl rfl rfl) (Nat.le_refl _)
        (fun _ => rfl) rfl rfl (.inl rfl)
    exact hr.trans (follows (hr.active ho) hv _)

theorem dequeue (task : Task) (s : Session S P J) : Kept s (s.dequeue task) :=
  of_same_loops id (Nat.le_refl _) (fun _ => rfl) rfl rfl (.inl rfl)

theorem resume (id : LoopId) (s : Session S P J) : Kept s (s.resume id) := by
  refine trans (modifyLoop id ?_ s) (wake _ _)
  intro l
  cases hp : l.phase <;> refine ⟨?_, ?_, ?_⟩ <;> simp [hp, Phase.answered]

theorem operate (op : Navigator.Operation P) (s : Session S P J) :
    Kept s (s.withNav fun n => (op.views.apply n, ())).1 := by
  obtain ⟨pages, hg, hq⟩ := Navigator.Operation.grows op.views_yields s.nav
  have ht : Kept s { s with nav := op.views.apply s.nav } := by
    refine of_same_loops (fun hs => hs.apply op.views) ?_ ?_ rfl rfl (.inl rfl)
    · simp [hg]
    · intro v
      by_cases hv : v < s.nav.views.length
      · simp [channel, hg, List.getElem?_append_left hv]
      · have hv := Nat.le_of_not_lt hv
        simp only [channel, hg, List.getElem?_append_right hv, List.getElem?_eq_none hv]
        cases hp : pages[v - s.nav.views.length]? with
        | none => rfl
        | some page => simpa using hq page (List.mem_of_getElem? hp)
  unfold withNav
  dsimp only
  split
  · exact ht
  · exact ht.trans (wake _ _)

end Kept

theorem begun_nil {e : Event S P} (hp : ∀ id, e ≠ .poll (.loop id)) : begun b s e = [] := by
  cases e with
  | poll task =>
    cases task with
    | watcher =>
      change ((s.dequeue .watcher).logging []).pollWatcher.source.2 = []
      rw [pollWatcher_source]
      rfl
    | loop id => exact absurd rfl (hp id)
  | _ => rfl

theorem next_kept {e : Event S P} (hs : s.nav.Sound) (ho : s.OnlyActive) (he : Enabled s e)
    (ht : ∀ view, e ≠ .trigger view) (hp : ∀ id, e ≠ .poll (.loop id)) : Kept s (next b s e) := by
  cases e with
  | operate op => exact .operate op s
  | trigger view => exact absurd rfl (ht view)
  | poll task =>
    cases task with
    | watcher =>
      have hd := Kept.dequeue .watcher s
      exact hd.trans (.pollWatcher (hd.active ho) hs.currentView_made)
    | loop id => exact absurd rfl (hp id)
  | resume id => exact .resume id s
  | supply source => exact .of_same_loops id (Nat.le_refl _) (fun _ => rfl) rfl rfl (.inl rfl)
  | edit view change =>
    refine .of_same_loops (sound_of_outline (modifyPage_outline ..)) ?_
      (fun _ => modifyPage_channel ..) rfl rfl (.inl rfl)
    exact Nat.le_of_eq (made_of_outline (modifyPage_outline ..)).symm
  | attach view => exact .attach ho he
  | cancel id => exact .cancel id s
  | shutdown => exact .shutdown s
  | closeEvents => exact .of_same_loops id (Nat.le_refl _) (fun _ => rfl) rfl rfl (.inr rfl)
  | takeEvents => exact .of_same_loops id (Nat.le_refl _) (fun _ => rfl) rfl rfl (.inr rfl)
  | drop =>
    have hd : Kept s { s with inUse := false } :=
      .of_same_loops id (Nat.le_refl _) (fun _ => rfl) rfl rfl (.inl rfl)
    exact hd.trans (.wake .watcher _)

structure Requested (view : ViewId) (s t : Session S P J) : Prop where
  outline : t.outline = s.outline
  loops : t.loops = s.loops
  events : t.events = s.events
  elsewhere : ∀ v, v ≠ view → t.channel v = s.channel v
  here : t.channel view = { s.channel view with pending := true }

theorem trigger_outline (view : ViewId) (s : Session S P J) :
    (s.trigger view).1.outline = s.outline := by
  unfold trigger
  dsimp only
  split
  · rfl
  · split
    · rw [wake_outline, modifyChannel_outline]
    · exact modifyChannel_outline ..

theorem trigger_requested (hm : view < s.nav.views.length) :
    Requested view s (s.trigger view).1 := by
  have ho := trigger_outline view s
  unfold trigger at ho ⊢
  dsimp only at ho ⊢
  split
  · next hp => exact ⟨rfl, rfl, rfl, fun _ _ => rfl, by rw [← hp]⟩
  · next hp =>
    have here := (modifyChannel_self view (fun c => { c with pending := true }) s).trans (if_pos hm)
    have elsewhere : ∀ v, v ≠ view → (s.modifyChannel view _).channel v = s.channel v :=
      fun v hv => modifyChannel_of_ne hv (fun c => { c with pending := true }) s
    rw [if_neg hp] at ho
    refine ⟨ho, ?_, ?_, ?_, ?_⟩ <;> split
    · exact wake_loops ..
    · rfl
    · exact wake_events ..
    · rfl
    · exact fun v hv => (wake_channel ..).trans (elsewhere v hv)
    · exact elsewhere
    · exact (wake_channel ..).trans here
    · exact here

theorem trigger_accepted (view : ViewId) (s : Session S P J) :
    (s.trigger view).2 = !(s.channel view).pending := by
  unfold trigger
  dsimp only
  split
  · next hp => simp [hp]
  · next hp =>
    have hp : (s.channel view).pending = false := eq_false_of_ne_true hp
    split <;> simp [hp]

theorem trigger_page? (view : ViewId) (s : Session S P J) (v : ViewId) :
    (s.trigger view).1.page? v = s.page? v := by
  unfold trigger
  dsimp only
  split
  · rfl
  · split
    · rw [page?, wake_nav]
      exact modifyChannel_page? ..
    · exact modifyChannel_page? ..

theorem poll_turn {l : Loop J} (h : s.loops[id]? = some l) :
    Turn id l.view (begun b s (.poll (.loop id))) s (next b s (.poll (.loop id))) ∧
      (l.view < s.nav.views.length →
        (l.phase.holdsReceiver = true → (s.channel l.view).holder = some id) →
          ∃ now, Outcome id l.view (begun b s (.poll (.loop id))) l.phase now s
            (next b s (.poll (.loop id)))) := by
  obtain ⟨starts, hs⟩ := served b (s := s.dequeue (.loop id)) h
  have hb : begun b s (.poll (.loop id)) = starts := by
    change (((s.dequeue (.loop id)).logging []).pollLoop b.logged id).source.2 = starts
    rw [hs.logged]
    rfl
  have hd : Turn id l.view [] s (s.dequeue (.loop id)) :=
    .of_same rfl (fun _ _ => rfl) (fun _ => rfl) rfl
  rw [hb]
  refine ⟨hd.trans hs.turn, fun hm hh => ?_⟩
  obtain ⟨now, ho⟩ := hs.outcome hm hh
  exact ⟨now, ho.phase, ho.held, ho.refreshing, ho.ended, ho.receiver⟩

theorem poll_absent (h : s.loops[id]? = none) :
    begun b s (.poll (.loop id)) = [] ∧ next b s (.poll (.loop id)) = s.dequeue (.loop id) := by
  have hl : ∀ log, ((s.dequeue (.loop id)).logging log).loops[id]? = none := fun _ => h
  have hd : (s.dequeue (.loop id)).loops[id]? = none := h
  refine ⟨?_, by simp only [next, poll, pollLoop, hd]⟩
  simp only [begun, poll, pollLoop, hl]
  rfl

/-- An event is a request, the turn of a loop that is there, or leaves the loops alone. -/
theorem next_cases (b : Backend S P J) (hs : s.nav.Sound) (ho : s.OnlyActive) {e : Event S P}
    (he : Enabled s e) :
    (∃ view, e = .trigger view ∧ view < s.nav.views.length) ∨
    (∃ id l, e = .poll (.loop id) ∧ s.loops[id]? = some l) ∨
    ((∀ view, e ≠ .trigger view) ∧ begun b s e = [] ∧ Kept s (next b s e)) := by
  by_cases ht : ∃ view, e = .trigger view
  · obtain ⟨view, rfl⟩ := ht
    exact .inl ⟨view, rfl, he⟩
  have ht : ∀ view, e ≠ .trigger view := fun view hv => ht ⟨view, hv⟩
  by_cases hp : ∃ id, e = .poll (.loop id)
  · obtain ⟨id, rfl⟩ := hp
    cases hl : s.loops[id]? with
    | none =>
      obtain ⟨hb, hn⟩ := poll_absent (b := b) hl
      exact .inr (.inr ⟨ht, hb, hn ▸ .dequeue _ s⟩)
    | some l => exact .inr (.inl ⟨id, l, rfl, hl⟩)
  · have hp : ∀ id, e ≠ .poll (.loop id) := fun id hi => hp ⟨id, hi⟩
    exact .inr (.inr ⟨ht, begun_nil hp, next_kept hs ho he ht hp⟩)

end Session
end ClusterDashboard
