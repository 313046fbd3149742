import ClusterDashboard.Proofs.Refresh.Runs
/-!
# What one turn of a refresh loop can do

A turn touches the loop's own phase, the channel and content of its own page, the source and the
events; `Outline` is everything it leaves alone. `Turn` accounts for the rest: every refresh that
begins takes up the one pending request, and only an uncancelled loop begins or reports one.
-/
namespace ClusterDashboard

namespace Phase

variable {J : Type}

def isRefreshing : Phase J → Bool
  | .refreshing _ _ => true
  | _ => false

/-- The phases in which a loop has the receiver to itself. -/
def holdsReceiver : Phase J → Bool
  | .listening | .refreshing _ _ => true
  | .starting | .queued | .ended => false

end Phase

namespace Session

variable {S P J : Type} {b : Backend S P J} {s t u : Session S P J}
variable {id other : LoopId} {view v : ViewId} {starts more : StartLog}

/-- What no turn of a refresh loop changes. -/
structure Outline where
  nav : Navigator Unit
  inUse : Bool
  watching : Bool
  listening : Bool
  active : Option LoopId
  loops : List (ViewId × Bool)

def outline (s : Session S P J) : Outline where
  nav := { s.nav with views := s.nav.views.map fun _ => () }
  inUse := s.inUse
  watching := s.watching
  listening := s.listening
  active := s.active
  loops := s.loops.map fun l => (l.view, l.cancelled)

theorem wake_eq (task : Task) (s : Session S P J) : ∃ ready, s.wake task = { s with ready } := by
  unfold wake
  split
  · exact ⟨s.ready, rfl⟩
  · exact ⟨_, rfl⟩

@[simp] theorem wake_nav (task : Task) (s : Session S P J) : (s.wake task).nav = s.nav := by
  obtain ⟨ready, h⟩ := wake_eq task s
  rw [h]

@[simp] theorem wake_loops (task : Task) (s : Session S P J) : (s.wake task).loops = s.loops := by
  obtain ⟨ready, h⟩ := wake_eq task s
  rw [h]

@[simp] theorem wake_events (task : Task) (s : Session S P J) :
    (s.wake task).events = s.events := by
  obtain ⟨ready, h⟩ := wake_eq task s
  rw [h]

@[simp] theorem wake_active (task : Task) (s : Session S P J) :
    (s.wake task).active = s.active := by
  obtain ⟨ready, h⟩ := wake_eq task s
  rw [h]

@[simp] theorem wake_outline (task : Task) (s : Session S P J) :
    (s.wake task).outline = s.outline := by
  obtain ⟨ready, h⟩ := wake_eq task s
  rw [h]
  rfl

@[simp] theorem wake_channel (task : Task) (s : Session S P J) (view : ViewId) :
    (s.wake task).channel view = s.channel view := by
  simp [channel]

theorem modifyView_outline (n : Navigator (View P)) (view : ViewId)
    (change : View P → View P) :
    (n.modifyView view change).views.map (fun _ => ()) = n.views.map fun _ => () := by
  simp [Navigator.modifyView, List.map_const']

@[simp] theorem modifyChannel_outline (view : ViewId) (change : Channel → Channel)
    (s : Session S P J) : (s.modifyChannel view change).outline = s.outline := by
  simp only [outline, modifyChannel, modifyView_outline]
  rfl

@[simp] theorem modifyPage_outline (view : ViewId) (change : P → P) (s : Session S P J) :
    (s.modifyPage view change).outline = s.outline := by
  simp only [outline, modifyPage, modifyView_outline]
  rfl

theorem modifyLoop_outline {change : Loop J → Loop J}
    (h : ∀ l, (change l).view = l.view ∧ (change l).cancelled = l.cancelled) (id : LoopId)
    (s : Session S P J) : (s.modifyLoop id change).outline = s.outline := by
  have hl : (s.loops.modify id change).map (fun l => (l.view, l.cancelled)) =
      s.loops.map fun l => (l.view, l.cancelled) := by
    apply List.ext_getElem?
    intro i
    by_cases hi : id = i <;> simp [hi, Function.comp_def, h]
  simp only [outline, modifyLoop, hl]

@[simp] theorem setPhase_outline (id : LoopId) (phase : Phase J) (s : Session S P J) :
    (s.setPhase id phase).outline = s.outline := by
  apply modifyLoop_outline
  intro l
  exact ⟨rfl, rfl⟩

theorem setPhase_loops_self (id : LoopId) (phase : Phase J) (s : Session S P J) :
    (s.setPhase id phase).loops[id]? = s.loops[id]?.map fun l => { l with phase } := by
  simp [setPhase, modifyLoop]

theorem setPhase_loops_of_ne (h : other ≠ id) (phase : Phase J) (s : Session S P J) :
    (s.setPhase id phase).loops[other]? = s.loops[other]? := by
  simp [setPhase, modifyLoop, h.symm]

@[simp] theorem modifyPage_channel (view : ViewId) (change : P → P) (s : Session S P J) :
    (s.modifyPage view change).channel v = s.channel v := by
  by_cases h : view = v <;>
    simp [channel, modifyPage, Navigator.modifyView, h, Function.comp_def]

theorem modifyChannel_of_ne (h : v ≠ view) (change : Channel → Channel) (s : Session S P J) :
    (s.modifyChannel view change).channel v = s.channel v := by
  simp [channel, modifyChannel, Navigator.modifyView, h.symm]

/-- A page that was never made has an idle channel, and keeps it. -/
theorem modifyChannel_self (view : ViewId) (change : Channel → Channel) (s : Session S P J) :
    (s.modifyChannel view change).channel view =
      if view < s.nav.views.length then change (s.channel view) else s.channel view := by
  by_cases h : view < s.nav.views.length <;>
    simp [channel, modifyChannel, Navigator.modifyView, h]

theorem modifyChannel_page? (view : ViewId) (change : Channel → Channel) (s : Session S P J)
    (v : ViewId) : (s.modifyChannel view change).page? v = s.page? v := by
  by_cases h : view = v <;>
    simp [page?, modifyChannel, Navigator.modifyView, h, Function.comp_def]

theorem isCancelled_of_outline (h : t.outline = s.outline) (id : LoopId) :
    t.isCancelled id = s.isCancelled id := by
  have he : ∀ s : Session S P J,
      s.isCancelled id = (s.outline.loops[id]?.map (·.2)).getD true := by
    intro s
    simp [isCancelled, outline, Function.comp_def]
  rw [he, he, h]

theorem listening_of_outline (h : t.outline = s.outline) : t.listening = s.listening :=
  congrArg Outline.listening h

theorem made_of_outline (h : t.outline = s.outline) :
    t.nav.views.length = s.nav.views.length := by
  have hl : ∀ s : Session S P J, s.nav.views.length = s.outline.nav.views.length := by
    simp [outline]
  rw [hl, hl, h]

structure Turn (id : LoopId) (view : ViewId) (starts : StartLog) (s t : Session S P J) :
    Prop where
  outline : t.outline = s.outline
  others : ∀ other, other ≠ id → t.loops[other]? = s.loops[other]?
  elsewhere : ∀ v, v ≠ view → t.channel v = s.channel v
  own : ∀ entry ∈ starts, entry = (id, view)
  requests : (s.channel view).pending.toNat = starts.length + (t.channel view).pending.toNat
  kept : ∀ other, other ≠ id →
    (s.channel view).holder = some other → (t.channel view).holder = some other
  started : starts ≠ [] → s.isCancelled id = false
  emitted : ∃ new, t.events = s.events ++ new ∧
    (new ≠ [] → s.isCancelled id = false ∧ s.listening = true)

theorem Turn.trans (h : Turn id view starts s t) (k : Turn id view more t u) :
    Turn id view (starts ++ more) s u := by
  have hc := isCancelled_of_outline h.outline id
  refine ⟨k.outline.trans h.outline, ?_, ?_, ?_, ?_, ?_, ?_, ?_⟩
  · intro other ho
    rw [k.others other ho, h.others other ho]
  · intro v hv
    rw [k.elsewhere v hv, h.elsewhere v hv]
  · intro entry he
    exact (List.mem_append.mp he).elim (h.own entry) (k.own entry)
  · have := h.requests
    have := k.requests
    rw [List.length_append]
    omega
  · intro other ho hh
    exact k.kept other ho (h.kept other ho hh)
  -- neither half changes what is cancelled, so what held before the first holds before both
  · intro hs
    by_cases hn : starts = []
    · exact hc ▸ k.started (by simpa [hn] using hs)
    · exact h.started hn
  · obtain ⟨first, hf, hfc⟩ := h.emitted
    obtain ⟨second, hg, hgc⟩ := k.emitted
    refine ⟨first ++ second, by rw [hg, hf, List.append_assoc], ?_⟩
    intro hn
    by_cases he : first = []
    · have := hgc (by simpa [he] using hn)
      rwa [hc, listening_of_outline h.outline] at this
    · exact hfc he

/-- A change that leaves the channels and the other loops alone, and reports nothing. -/
theorem Turn.of_same (ho : t.outline = s.outline)
    (hl : ∀ other, other ≠ id → t.loops[other]? = s.loops[other]?)
    (hc : ∀ v, t.channel v = s.channel v) (he : t.events = s.events) : Turn id view [] s t where
  outline := ho
  others := hl
  elsewhere v _ := hc v
  own := by simp
  requests := by simp [hc]
  kept other _ hh := by rw [hc]; exact hh
  started h := absurd rfl h
  emitted := ⟨[], by simp [he], by simp⟩

theorem Turn.refl (s : Session S P J) : Turn id view [] s s :=
  .of_same rfl (fun _ _ => rfl) (fun _ => rfl) rfl

theorem setPhase_turn (phase : Phase J) (s : Session S P J) :
    Turn id view [] s (s.setPhase id phase) :=
  .of_same (setPhase_outline ..) (fun _ ho => setPhase_loops_of_ne ho phase s) (fun _ => rfl) rfl

theorem modifyPage_turn (v : ViewId) (change : P → P) (s : Session S P J) :
    Turn id view [] s (s.modifyPage v change) :=
  .of_same (modifyPage_outline ..) (fun _ _ => rfl) (fun _ => modifyPage_channel ..) rfl

theorem wake_turn (task : Task) (s : Session S P J) : Turn id view [] s (s.wake task) :=
  .of_same (wake_outline ..) (fun _ _ => by rw [wake_loops]) (fun _ => wake_channel ..)
    (wake_events ..)

theorem source_turn (source : S) (s : Session S P J) :
    Turn id view [] s { s with source } :=
  .of_same rfl (fun _ _ => rfl) (fun _ => rfl) rfl

/-- Who holds the receiver may change only at the hands of the loop that has it. -/
theorem modifyChannel_turn {change : Channel → Channel} (s : Session S P J)
    (hp : (change (s.channel view)).pending = (s.channel view).pending)
    (hh : ∀ other, other ≠ id → (s.channel view).holder = some other →
      (change (s.channel view)).holder = some other) :
    Turn id view [] s (s.modifyChannel view change) := by
  have hs := modifyChannel_self view change s
  refine ⟨modifyChannel_outline .., fun _ _ => rfl, fun v hv => modifyChannel_of_ne hv change s,
    by simp, ?_, ?_, fun h => absurd rfl h, [], (List.append_nil _).symm, by simp⟩
  · rw [hs]
    split <;> simp [hp]
  · intro other ho hold
    rw [hs]
    split
    · exact hh other ho hold
    · exact hold

theorem take_turn (hm : view < s.nav.views.length) (hc : s.isCancelled id = false)
    (hp : (s.channel view).pending = true) :
    Turn id view [(id, view)] s (s.modifyChannel view fun c => { c with pending := false }) := by
  have hs := modifyChannel_self view (fun c => { c with pending := false }) s
  rw [if_pos hm] at hs
  refine ⟨modifyChannel_outline .., fun _ _ => rfl, fun v hv => modifyChannel_of_ne hv _ s,
    by simp, ?_, ?_, fun _ => hc, [], (List.append_nil _).symm, by simp⟩
  · simp [hs, hp]
  · intro other ho hold
    rw [hs]
    exact hold

theorem emit_turn (event : RefreshEvent) (hc : s.isCancelled id = false)
    (hl : s.listening = true) :
    Turn id view [] s { s with events := s.events ++ [event] } where
  outline := rfl
  others _ _ := rfl
  elsewhere _ _ := rfl
  own := by simp
  requests := by simp [channel]
  kept _ _ hh := hh
  started h := absurd rfl h
  emitted := ⟨[event], rfl, fun _ => ⟨hc, hl⟩⟩

theorem leaveChannel_turn (id : LoopId) (view : ViewId) (s : Session S P J) :
    Turn id view [] s (s.leaveChannel id view) := by
  unfold leaveChannel
  dsimp only
  split
  · next hold =>
    have hid : ∀ other, other ≠ id → (s.channel view).holder ≠ some other := by
      intro other ho he
      exact ho (Option.some.inj (he.symm.trans hold))
    split
    · exact modifyChannel_turn s rfl (fun other ho he => absurd he (hid other ho))
    · exact (modifyChannel_turn s rfl (fun other ho he => absurd he (hid other ho))).trans
        (wake_turn _ _)
  · exact modifyChannel_turn s rfl (fun _ _ he => he)

theorem endLoop_turn (id : LoopId) (view : ViewId) (s : Session S P J) :
    Turn id view [] s (s.endLoop id view) :=
  (setPhase_turn .ended s).trans (leaveChannel_turn id view _)

/-- What is reported of a refresh when its answer is there. -/
def answer (b : Backend S P J) (page : P) (job : J) : RefreshEvent :=
  match (b.complete page job).2 with
  | none => .rendered (b.name (b.complete page job).1)
  | some text => .failed (b.name (b.complete page job).1) text

theorem conclude_eq {page : P} (h : s.page? view = some page) (job : J) :
    s.conclude b id view job =
      let t := s.modifyPage view fun _ => (b.complete page job).1
      if s.isCancelled id || !s.listening then t.endLoop id view
      else { t.setPhase id .listening with events := s.events ++ [answer b page job] } := by
  simp only [conclude, h]
  rfl

/-- The request is taken from the channel and the refresh begins. -/
def takeUp (b : Backend S P J) (id : LoopId) (view : ViewId) (page : P) (s : Session S P J) :
    Session S P J :=
  { (s.modifyChannel view fun c => { c with pending := false }).modifyPage view
      (fun _ => (b.start s.source id view page).2.1) with
    source := (b.start s.source id view page).1 }

theorem listen_eq {page : P} (h : s.page? view = some page) :
    s.listen b id view =
      if s.isCancelled id then s.endLoop id view
      else if !(s.channel view).pending then s.setPhase id .listening
      else if (b.start s.source id view page).2.2.2 then
        (s.takeUp b id view page).setPhase id
          (.refreshing (b.start s.source id view page).2.2.1 true)
      else (s.takeUp b id view page).conclude b id view
        (b.start s.source id view page).2.2.1 := by
  simp only [listen, h]
  rfl

theorem made_of_page {page : P} (h : s.page? view = some page) : view < s.nav.views.length := by
  obtain ⟨v, hv, -⟩ := Option.map_eq_some_iff.mp h
  exact (List.getElem?_eq_some_iff.mp hv).1

theorem page_of_made (h : view < s.nav.views.length) : ∃ page, s.page? view = some page :=
  ⟨_, by rw [page?, List.getElem?_eq_getElem h]; rfl⟩

theorem conclude_turn (id : LoopId) (view : ViewId) (job : J) (s : Session S P J) :
    Turn id view [] s (s.conclude b id view job) := by
  cases hp : s.page? view with
  | none => simpa only [conclude, hp] using endLoop_turn id view s
  | some page =>
    rw [conclude_eq hp]
    have hm : Turn id view [] s (s.modifyPage view fun _ => (b.complete page job).1) :=
      modifyPage_turn view _ s
    dsimp only
    split
    · exact hm.trans (endLoop_turn id view _)
    · next hn =>
      have hs := hm.trans (setPhase_turn .listening _)
      have hn : s.isCancelled id = false ∧ s.listening = true := by simpa using hn
      exact hs.trans (emit_turn _ ((isCancelled_of_outline hs.outline id).trans hn.1) hn.2)

theorem takeUp_turn {page : P} (hm : s.page? view = some page) (hc : s.isCancelled id = false)
    (hp : (s.channel view).pending = true) :
    Turn id view [(id, view)] s (s.takeUp b id view page) :=
  ((take_turn (made_of_page hm) hc hp).trans (modifyPage_turn view _ _)).trans (source_turn _ _)

section Logging

variable (log : StartLog)

@[simp] theorem logging_wake (task : Task) (s : Session S P J) :
    (s.logging log).wake task = (s.wake task).logging log := by
  change (if task ∈ s.ready then _ else _) = logging log (if task ∈ s.ready then _ else _)
  split <;> rfl

@[simp] theorem logging_modifyChannel (view : ViewId) (change : Channel → Channel)
    (s : Session S P J) : (s.logging log).modifyChannel view change =
      (s.modifyChannel view change).logging log := rfl

@[simp] theorem logging_modifyPage (view : ViewId) (change : P → P) (s : Session S P J) :
    (s.logging log).modifyPage view change = (s.modifyPage view change).logging log := rfl

@[simp] theorem logging_setPhase (id : LoopId) (phase : Phase J) (s : Session S P J) :
    (s.logging log).setPhase id phase = (s.setPhase id phase).logging log := rfl

@[simp] theorem logging_isCancelled (id : LoopId) (s : Session S P J) :
    (s.logging log).isCancelled id = s.isCancelled id := rfl

@[simp] theorem logging_channel (view : ViewId) (s : Session S P J) :
    (s.logging log).channel view = s.channel view := rfl

theorem logging_leaveChannel (id : LoopId) (view : ViewId) (s : Session S P J) :
    (s.logging log).leaveChannel id view = (s.leaveChannel id view).logging log := by
  have hc : (s.logging log).channel view = s.channel view := rfl
  unfold leaveChannel
  rw [hc]
  dsimp only
  split
  · split
    · rfl
    · rw [logging_modifyChannel, logging_wake]
  · rfl

theorem logging_endLoop (id : LoopId) (view : ViewId) (s : Session S P J) :
    (s.logging log).endLoop id view = (s.endLoop id view).logging log :=
  logging_leaveChannel log id view (s.setPhase id .ended)

theorem logging_conclude (id : LoopId) (view : ViewId) (job : J) (s : Session S P J) :
    (s.logging log).conclude b.logged id view job = (s.conclude b id view job).logging log := by
  cases hp : s.page? view with
  | none =>
    have hl : (s.logging log).page? view = none := hp
    simpa only [conclude, hp, hl] using logging_endLoop log id view s
  | some page =>
    rw [conclude_eq hp, conclude_eq (s := s.logging log) hp]
    dsimp only
    rw [apply_ite (logging log), logging_modifyPage, logging_endLoop]
    rfl

theorem logging_takeUp (id : LoopId) (view : ViewId) (page : P) (s : Session S P J) :
    (s.logging log).takeUp b.logged id view page =
      (s.takeUp b id view page).logging (log ++ [(id, view)]) := rfl

end Logging

theorem leaveChannel_loops (id : LoopId) (view : ViewId) (s : Session S P J) :
    (s.leaveChannel id view).loops = s.loops := by
  unfold leaveChannel
  dsimp only
  split
  · split
    · rfl
    · rw [wake_loops]
      rfl
  · rfl

theorem setPhase_phase {phase : Phase J} {l : Loop J}
    (h : (s.setPhase id phase).loops[id]? = some l) : l.phase = phase := by
  rw [setPhase_loops_self] at h
  obtain ⟨_, -, rfl⟩ := Option.map_eq_some_iff.mp h
  rfl

theorem endLoop_phase {l : Loop J} (h : (s.endLoop id view).loops[id]? = some l) :
    l.phase = .ended := by
  rw [endLoop, leaveChannel_loops] at h
  exact setPhase_phase h

theorem hasEnded_eq {l : Loop J} (h : s.loops[id]? = some l) :
    s.hasEnded id = l.phase.isEnded := by
  simp [hasEnded, h]

theorem hasEnded_of_phase (h : ∀ l, s.loops[id]? = some l → l.phase = .ended) :
    s.hasEnded id = true := by
  cases hl : s.loops[id]? with
  | none => simp [hasEnded, hl]
  | some l =>
    rw [hasEnded_eq hl, h l hl]
    rfl

theorem conclude_cases (b : Backend S P J) (id : LoopId) (hm : view < s.nav.views.length)
    (job : J) :
    ((s.isCancelled id = true ∨ s.listening = false) ∧
      ∀ l, (s.conclude b id view job).loops[id]? = some l → l.phase = .ended) ∨
    (s.isCancelled id = false ∧ s.listening = true ∧
      (∀ l, (s.conclude b id view job).loops[id]? = some l → l.phase = .listening) ∧
      ∀ v, (s.conclude b id view job).channel v = s.channel v) := by
  obtain ⟨page, hp⟩ := page_of_made hm
  rw [conclude_eq hp]
  dsimp only
  split
  · next hn => exact .inl ⟨by simpa using hn, fun l hl => endLoop_phase hl⟩
  · next hn =>
    have hn : s.isCancelled id = false ∧ s.listening = true := by simpa using hn
    exact .inr ⟨hn.1, hn.2, fun l hl => setPhase_phase hl, fun v =>
      modifyPage_channel (v := v) view (fun _ => (b.complete page job).1) s⟩

/-- Where a turn leaves its loop, which was in phase `was`. -/
structure Outcome (id : LoopId) (view : ViewId) (starts : StartLog) (was now : Phase J)
    (s t : Session S P J) : Prop where
  phase : ∀ l, t.loops[id]? = some l → l.phase = now
  held : now.holdsReceiver = true → (t.channel view).holder = some id
  refreshing : now.isRefreshing = true → starts = [] → was.isRefreshing = true
  ended : now.isEnded = true → was.isEnded = true ∨ s.isCancelled id = true ∨
    s.listening = false ∧ (starts ≠ [] ∨ was.isRefreshing = true)
  receiver : starts ≠ [] →
    (s.channel view).holder = none ∨ (s.channel view).holder = some id

theorem conclude_outcome (hm : view < s.nav.views.length) (hh : (s.channel view).holder = some id)
    (job : J) : ∃ now, Outcome id view [] (.refreshing job false) now s
      (s.conclude b id view job) := by
  rcases conclude_cases b id hm job with ⟨hn, hp⟩ | ⟨-, -, hp, hc⟩
  · refine ⟨.ended, hp, nofun, nofun, fun _ => .inr ?_, fun h => absurd rfl h⟩
    rcases hn with hn | hn
    · exact .inl hn
    · exact .inr ⟨hn, .inr rfl⟩
  · exact ⟨.listening, hp, fun _ => hc view ▸ hh, nofun, nofun, fun h => absurd rfl h⟩

theorem takeUp_channel {page : P} (hm : view < s.nav.views.length) :
    (s.takeUp b id view page).channel view = { s.channel view with pending := false } := by
  have hc := modifyChannel_self view (fun c => { c with pending := false }) s
  rw [if_pos hm] at hc
  have hp := modifyPage_channel (v := view) view (fun _ => (b.start s.source id view page).2.1)
    (s.modifyChannel view fun c => { c with pending := false })
  exact hp.trans hc

theorem takeUp_holder {page : P} (hm : view < s.nav.views.length) :
    ((s.takeUp b id view page).channel view).holder = (s.channel view).holder := by
  rw [takeUp_channel hm]

/-- The refresh that a loop begins on listening, if any. -/
def taken (id : LoopId) (view : ViewId) (s : Session S P J) : StartLog :=
  if s.isCancelled id || !(s.channel view).pending || (s.page? view).isNone then []
  else [(id, view)]

theorem logging_listen (b : Backend S P J) (id : LoopId) (view : ViewId) (s : Session S P J)
    (log : StartLog) : (s.logging log).listen b.logged id view =
      (s.listen b id view).logging (log ++ s.taken id view) := by
  unfold taken
  cases hp : s.page? view with
  | none =>
    have hl : (s.logging log).page? view = none := hp
    simp only [listen, hp, hl, logging_isCancelled, logging_endLoop, logging_setPhase,
      logging_channel, Option.isNone_none, Bool.or_true, if_true, List.append_nil]
    split
    · rfl
    · split <;> rfl
  | some page =>
    rw [listen_eq hp, listen_eq (s := s.logging log) hp, logging_takeUp]
    by_cases hc : s.isCancelled id = true
    · simp [hc, logging_endLoop]
    by_cases hq : (s.channel view).pending = true
    · by_cases hw : (b.start s.source id view page).2.2.2 = true
      · have hl : (b.logged.start (s.logging log).source id view page).2.2.2 = true := hw
        simp only [hc, hq, hw, hl, logging_isCancelled, logging_channel, Bool.not_true,
          Bool.false_eq_true, if_false, if_true, Bool.or_false, Option.isNone_some]
        rfl
      · have hl : ¬(b.logged.start (s.logging log).source id view page).2.2.2 = true := hw
        simp only [hc, hq, hw, hl, logging_isCancelled, logging_channel, Bool.not_true,
          Bool.false_eq_true, if_false, Bool.or_false, Option.isNone_some, logging_conclude]
        rfl
    · simp [hc, hq]

theorem listen_turn (b : Backend S P J) (id : LoopId) (view : ViewId) (s : Session S P J) :
    Turn id view (s.taken id view) s (s.listen b id view) := by
  unfold taken
  cases hp : s.page? view with
  | none =>
    simp only [listen, hp, Option.isNone_none, Bool.or_true, if_true]
    split
    · exact endLoop_turn id view s
    · split
      · exact setPhase_turn .listening s
      · exact endLoop_turn id view s
  | some page =>
    rw [listen_eq hp]
    cases hc : s.isCancelled id with
    | true => simpa using endLoop_turn id view s
    | false =>
      cases hq : (s.channel view).pending with
      | false => simpa using setPhase_turn .listening s
      | true =>
        have ht : Turn id view [(id, view)] s (s.takeUp b id view page) := takeUp_turn hp hc hq
        simp only [Bool.not_true, Bool.false_eq_true, if_false, Bool.or_false,
          Option.isNone_some]
        split
        · exact ht.trans (setPhase_turn _ _)
        · exact ht.trans (conclude_turn id view _ _)

/-- A loop that holds the receiver ends only if it is cancelled or nobody hears it. -/
theorem listen_outcome (hm : view < s.nav.views.length) (hh : (s.channel view).holder = some id)
    (was : Phase J) :
    ∃ now, Outcome id view (s.taken id view) was now s (s.listen b id view) := by
  obtain ⟨page, hp⟩ := page_of_made hm
  rw [listen_eq hp, taken, hp]
  cases hc : s.isCancelled id with
  | true =>
    exact ⟨.ended, fun l hl => endLoop_phase hl, nofun, nofun, fun _ => .inr (.inl hc),
      fun _ => .inr hh⟩
  | false =>
    cases hq : (s.channel view).pending with
    | false =>
      exact ⟨.listening, fun l hl => setPhase_phase hl, fun _ => hh, nofun, nofun,
        fun _ => .inr hh⟩
    | true =>
      have ht := takeUp_turn (b := b) hp hc hq
      have hk : ((s.takeUp b id view page).channel view).holder = some id :=
        (takeUp_holder hm).trans hh
      simp only [Bool.not_true, Bool.false_eq_true, if_false, Bool.or_false,
        Option.isNone_some]
      split
      · exact ⟨_, fun l hl => setPhase_phase hl, fun _ => hk, nofun, nofun, fun _ => .inr hh⟩
      · have hm' : view < (s.takeUp b id view page).nav.views.length :=
          made_of_outline ht.outline ▸ hm
        obtain ⟨now, ho⟩ := conclude_outcome (b := b) hm' hk
          (b.start s.source id view page).2.2.1
        refine ⟨now, ho.phase, ho.held, nofun, fun he => .inr ?_, fun _ => .inr hh⟩
        rcases ho.ended he with h | h | h
        · cases h
        · exact .inl ((isCancelled_of_outline ht.outline id) ▸ h)
        · exact .inr ⟨(listening_of_outline ht.outline) ▸ h.1, .inl nofun⟩

/-- The receiver goes to a loop that asks for it while nobody has it. -/
def claim (id : LoopId) (view : ViewId) (s : Session S P J) : Session S P J :=
  s.modifyChannel view fun c => { c with holder := some id }

theorem claim_turn (h : (s.channel view).holder = none) :
    Turn id view [] s (s.claim id view) :=
  modifyChannel_turn s rfl fun _ _ he => nomatch h.symm.trans he

theorem claim_channel (hm : view < s.nav.views.length) :
    (s.claim id view).channel view = { s.channel view with holder := some id } :=
  (modifyChannel_self ..).trans (if_pos hm)

theorem claim_listen_outcome (hm : view < s.nav.views.length)
    (hf : (s.channel view).holder = none) (was : Phase J) :
    ∃ now, Outcome id view ((s.claim id view).taken id view) was now s
      ((s.claim id view).listen b id view) := by
  have hc : (s.claim id view).channel view = { s.channel view with holder := some id } :=
    claim_channel hm
  have hm' : view < (s.claim id view).nav.views.length :=
    made_of_outline (claim_turn hf).outline ▸ hm
  obtain ⟨now, ho⟩ := listen_outcome (b := b) hm' (congrArg Channel.holder hc) was
  exact ⟨now, ho.phase, ho.held, ho.refreshing, ho.ended, fun _ => .inl hf⟩

/-- The turn of a loop in phase `was`, with the refreshes it begins. -/
structure Served (b : Backend S P J) (id : LoopId) (view : ViewId) (was : Phase J)
    (starts : StartLog) (s : Session S P J) : Prop where
  logged : ∀ log, (s.logging log).pollLoop b.logged id =
    (s.pollLoop b id).logging (log ++ starts)
  turn : Turn id view starts s (s.pollLoop b id)
  outcome : view < s.nav.views.length →
    (was.holdsReceiver = true → (s.channel view).holder = some id) →
      ∃ now, Outcome id view starts was now s (s.pollLoop b id)

section Served

variable {l : Loop J}

theorem served_same (h : s.loops[id]? = some l) (hs : s.pollLoop b id = s)
    (hg : ∀ log, (s.logging log).pollLoop b.logged id = s.logging log) :
    Served b id l.view l.phase [] s := by
  constructor
  · intro log
    rw [hs, hg, List.append_nil]
  · rw [hs]
    exact Turn.refl s
  · intro _ hh
    have hp : ∀ m, s.loops[id]? = some m → m.phase = l.phase := by
      intro m hm
      cases hm.symm.trans h
      rfl
    rw [hs]
    exact ⟨l.phase, hp, hh, fun hr _ => hr, .inl, absurd rfl⟩

theorem served_end {was : Phase J} (hc : s.isCancelled id = true)
    (hs : s.pollLoop b id = s.endLoop id view)
    (hg : ∀ log, (s.logging log).pollLoop b.logged id = (s.logging log).endLoop id view) :
    Served b id view was [] s := by
  constructor
  · intro log
    rw [hs, hg, logging_endLoop, List.append_nil]
  · rw [hs]
    exact endLoop_turn id view s
  · intro _ _
    rw [hs]
    exact ⟨.ended, fun _ => endLoop_phase, nofun, nofun, fun _ => .inr (.inl hc), absurd rfl⟩

theorem served_listen {was : Phase J}
    (hh : (was.holdsReceiver = true → (s.channel view).holder = some id) →
      (s.channel view).holder = some id)
    (hs : s.pollLoop b id = s.listen b id view)
    (hg : ∀ log, (s.logging log).pollLoop b.logged id =
      (s.logging log).listen b.logged id view) :
    Served b id view was (s.taken id view) s := by
  constructor
  · intro log
    rw [hs, hg, logging_listen]
  · rw [hs]
    exact listen_turn b id view s
  · intro hm hold
    rw [hs]
    exact listen_outcome hm (hh hold) was

theorem served_claim {was : Phase J} (hf : (s.channel view).holder = none)
    (hs : s.pollLoop b id = (s.claim id view).listen b id view)
    (hg : ∀ log, (s.logging log).pollLoop b.logged id =
      ((s.claim id view).logging log).listen b.logged id view) :
    Served b id view was ((s.claim id view).taken id view) s := by
  constructor
  · intro log
    rw [hs, hg, logging_listen]
  · rw [hs]
    exact (claim_turn hf).trans (listen_turn b id view _)
  · intro hm _
    rw [hs]
    exact claim_listen_outcome hm hf was

def enqueue (id : LoopId) (view : ViewId) (s : Session S P J) : Session S P J :=
  (s.modifyChannel view fun c => { c with waiting := c.waiting ++ [id] }).setPhase id .queued

theorem enqueue_channel (hm : view < s.nav.views.length) :
    (s.enqueue id view).channel view =
      { s.channel view with waiting := (s.channel view).waiting ++ [id] } :=
  (modifyChannel_self view (fun c => { c with waiting := c.waiting ++ [id] }) s).trans (if_pos hm)

theorem served_enqueue {was : Phase J} (hs : s.pollLoop b id = s.enqueue id view)
    (hg : ∀ log, (s.logging log).pollLoop b.logged id = (s.enqueue id view).logging log) :
    Served b id view was [] s := by
  constructor
  · intro log
    rw [hs, hg, List.append_nil]
  · rw [hs]
    exact (modifyChannel_turn s rfl fun _ _ he => he).trans (setPhase_turn .queued _)
  · intro _ _
    rw [hs]
    exact ⟨.queued, fun _ => setPhase_phase, nofun, nofun, nofun, absurd rfl⟩

/-- A loop that has its answer listens again at once, unless it has ended. -/
theorem served_answer {job : J} (hs : s.pollLoop b id =
      if (s.conclude b id view job).hasEnded id then s.conclude b id view job
      else (s.conclude b id view job).listen b id view)
    (hg : ∀ log, (s.logging log).pollLoop b.logged id =
      if (s.conclude b id view job).hasEnded id then (s.conclude b id view job).logging log
      else ((s.conclude b id view job).logging log).listen b.logged id view) :
    ∃ starts, Served b id view (.refreshing job false) starts s := by
  have ht := conclude_turn (b := b) id view job s
  cases he : (s.conclude b id view job).hasEnded id with
  | true =>
    simp only [he, if_true] at hs hg
    refine ⟨[], fun log => by rw [hs, hg, List.append_nil], hs ▸ ht, fun hm hh => ?_⟩
    rw [hs]
    exact conclude_outcome hm (hh rfl) job
  | false =>
    simp only [he, Bool.false_eq_true, if_false] at hs hg
    refine ⟨_, fun log => by rw [hs, hg, logging_listen, List.nil_append],
      hs ▸ ht.trans (listen_turn ..), fun hm hh => ?_⟩
    rw [hs]
    rcases conclude_cases b id hm job with ⟨-, hp⟩ | ⟨hc, hl, -, hv⟩
    · exact absurd (hasEnded_of_phase hp) (by simp [he])
    · have hm' : view < (s.conclude b id view job).nav.views.length :=
        made_of_outline ht.outline ▸ hm
      obtain ⟨now, ho⟩ := listen_outcome (b := b) hm' ((hv view).symm ▸ hh rfl) .listening
      refine ⟨now, ho.phase, ho.held, fun _ _ => rfl, fun hn => .inr ?_, fun _ => .inr (hh rfl)⟩
      rcases ho.ended hn with h | h | h
      · cases h
      · exact .inl (isCancelled_of_outline ht.outline id ▸ h)
      · exact .inr ⟨listening_of_outline ht.outline ▸ h.1, .inr rfl⟩

end Served

theorem served (b : Backend S P J) {l : Loop J} (h : s.loops[id]? = some l) :
    ∃ starts, Served b id l.view l.phase starts s := by
  have hl : ∀ log, (s.logging log).loops[id]? = some l := fun _ => h
  have hc : s.isCancelled id = l.cancelled := by simp [isCancelled, h]
  cases hw : l.phase with
  | starting =>
    by_cases hx : l.cancelled = true
    · exact ⟨[], served_end (hc.trans hx) (by simp [pollLoop, h, hw, hx])
        (by simp [pollLoop, hl, hw, hx])⟩
    by_cases hf : (s.channel l.view).holder = none
    · exact ⟨_, served_claim hf (by simp [pollLoop, h, hw, hx, hf, claim])
        (by simp [pollLoop, hl, hw, hx, hf, claim])⟩
    · exact ⟨[], served_enqueue (by simp [pollLoop, h, hw, hx, hf, enqueue])
        (by simp [pollLoop, hl, hw, hx, hf, enqueue])⟩
  | queued =>
    by_cases hx : l.cancelled = true
    · exact ⟨[], served_end (hc.trans hx) (by simp [pollLoop, h, hw, hx])
        (by simp [pollLoop, hl, hw, hx])⟩
    by_cases hf : (s.channel l.view).holder = some id
    · exact ⟨_, served_listen (fun _ => hf) (by simp [pollLoop, h, hw, hx, hf])
        (by simp [pollLoop, hl, hw, hx, hf])⟩
    · rw [← hw]
      exact ⟨[], served_same h (by simp [pollLoop, h, hw, hx, hf])
        (by simp [pollLoop, hl, hw, hx, hf])⟩
  | listening =>
    exact ⟨_, served_listen (fun hh => hh rfl) (by simp [pollLoop, h, hw])
      (by simp [pollLoop, hl, hw])⟩
  | refreshing job parked =>
    cases parked with
    | true =>
      rw [← hw]
      exact ⟨[], served_same h (by simp [pollLoop, h, hw]) (by simp [pollLoop, hl, hw])⟩
    | false =>
      refine served_answer (by simp [pollLoop, h, hw]) fun log => ?_
      simp only [pollLoop, hl, hw, logging_conclude]
      rfl
  | ended =>
    rw [← hw]
    exact ⟨[], served_same h (by simp [pollLoop, h, hw]) (by simp [pollLoop, hl, hw])⟩

/-- A turn of the loop would change nothing: it has ended, or waits for an answer, for the receiver
or for a request. -/
def restsIn (c : Channel) (id : LoopId) (l : Loop J) : Bool :=
  match l.phase with
  | .ended | .refreshing _ true => true
  | .starting | .refreshing _ false => false
  | .queued => !l.cancelled && c.holder != some id
  | .listening => !l.cancelled && !c.pending

/-- What the turn of a loop comes to. -/
inductive PollStep (b : Backend S P J) (id : LoopId) (l : Loop J) (s t : Session S P J) : Prop where
  | rested (rests : restsIn (s.channel l.view) id l = true) (same : t = s)
  | ended (cancelled : l.cancelled = true) (ends : t = s.endLoop id l.view)
  | listened
    (phase : l.phase = .listening ∨ l.phase = .queued ∧ (s.channel l.view).holder = some id)
    (listens : t = s.listen b id l.view)
  | claimed (free : (s.channel l.view).holder = none) (live : l.cancelled = false)
    (claims : t = (s.claim id l.view).listen b id l.view)
  | queued (phase : l.phase = .starting) (live : l.cancelled = false)
    (taken : (s.channel l.view).holder ≠ none) (waits : t = s.enqueue id l.view)
  | answered (job : J) (phase : l.phase = .refreshing job false)
    (answers : t = if (s.conclude b id l.view job).hasEnded id then s.conclude b id l.view job
      else (s.conclude b id l.view job).listen b id l.view)

theorem poll_step (b : Backend S P J) {l : Loop J} (hl : s.loops[id]? = some l) :
    PollStep b id l s (s.pollLoop b id) := by
  cases hp : l.phase with
  | starting =>
    by_cases hx : l.cancelled = true
    · exact .ended hx (by simp [pollLoop, hl, hp, hx])
    have live : l.cancelled = false := eq_false_of_ne_true hx
    by_cases hf : (s.channel l.view).holder = none
    · exact .claimed hf live (by simp [pollLoop, hl, hp, live, hf, claim])
    · exact .queued hp live hf (by simp [pollLoop, hl, hp, live, hf, enqueue])
  | queued =>
    by_cases hx : l.cancelled = true
    · exact .ended hx (by simp [pollLoop, hl, hp, hx])
    by_cases hf : (s.channel l.view).holder = some id
    · exact .listened (.inr ⟨hp, hf⟩) (by simp [pollLoop, hl, hp, hx, hf])
    · exact .rested (by simp [restsIn, hp, hx, hf]) (by simp [pollLoop, hl, hp, hx, hf])
  | listening => exact .listened (.inl hp) (by simp [pollLoop, hl, hp])
  | refreshing job parked =>
    cases parked with
    | true => exact .rested (by simp [restsIn, hp]) (by simp [pollLoop, hl, hp])
    | false => exact .answered job hp (by simp [pollLoop, hl, hp])
  | ended => exact .rested (by simp [restsIn, hp]) (by simp [pollLoop, hl, hp])

end Session
end ClusterDashboard
