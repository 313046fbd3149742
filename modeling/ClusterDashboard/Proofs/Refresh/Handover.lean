import ClusterDashboard.Proofs.Refresh.Attachment
import ClusterDashboard.Proofs.Refresh.Requests
import Mathlib.Data.List.Nodup
/-!
# The line for a receiver

The loops that have the receiver of a page or wait for it stand in line, each once; where anybody
waits, somebody has it. A loop that has ended is in no line, so the receiver always passes on to a
loop that is still there, and where no task has anything left to do and nobody refreshes the page
in view, no request for it is left over.
-/
namespace ClusterDashboard

namespace Channel

/-- The loop that has the receiver, then those that wait for it. -/
def line (c : Channel) : List LoopId := c.holder.toList ++ c.waiting

structure Ordered (c : Channel) : Prop where
  nodup : c.line.Nodup
  headed : c.holder = none → c.waiting = []

/-- Without the loop; the receiver goes to the next one in line. -/
def left (id : LoopId) (c : Channel) : Channel :=
  if c.holder = some id then
    match c.waiting with
    | [] => { c with holder := none }
    | next :: rest => { c with holder := some next, waiting := rest }
  else { c with waiting := c.waiting.erase id }

variable {c d e : Channel} {id : LoopId} {before after : Bool}

theorem mem_line_of_holder (h : c.holder = some id) : id ∈ c.line := by
  rw [line, h]
  exact List.mem_cons_self

theorem left_line (id : LoopId) (c : Channel) : (c.left id).line = c.line.erase id := by
  rw [left]
  split
  · next hh =>
    have hl : c.line.erase id = c.waiting := by
      rw [line, hh]
      exact List.erase_cons_head ..
    rw [hl]
    split
    · next hw => rw [line, hw]; rfl
    · next hw => rw [line, hw]; rfl
  · next hh =>
    cases hc : c.holder with
    | none => simp [line, hc]
    | some other =>
      have ho : other ≠ id := by
        rintro rfl
        exact hh hc
      simp [line, hc, List.erase_cons_tail, ho]

/-- Whether the loop is in line is as it is told, and nobody else has come or gone. -/
structure Moves (id : LoopId) (present : Bool) (c d : Channel) : Prop extends Ordered d where
  own : id ∈ d.line ↔ present = true
  others : ∀ other, other ≠ id → (other ∈ d.line ↔ other ∈ c.line)

theorem Moves.trans (h : Moves id before c d) (k : Moves id after d e) : Moves id after c e where
  toOrdered := k.toOrdered
  own := k.own
  others other ho := (k.others other ho).trans (h.others other ho)

/-- Whether a request waits does not matter. -/
theorem Ordered.moves_same (h : c.Ordered) (hm : id ∈ c.line) (holder : d.holder = c.holder)
    (waiting : d.waiting = c.waiting) : Moves id true c d := by
  have hl : d.line = c.line := by rw [line, line, holder, waiting]
  refine ⟨⟨hl ▸ h.nodup, ?_⟩, iff_of_true (hl ▸ hm) rfl, fun _ _ => by rw [hl]⟩
  rw [holder, waiting]
  exact h.headed

theorem Ordered.moves_left (h : c.Ordered) (id : LoopId) : Moves id false c (c.left id) := by
  have hl := left_line id c
  refine ⟨⟨hl ▸ h.nodup.erase id, ?_⟩, ?_, ?_⟩
  · intro hn
    rw [left] at hn ⊢
    by_cases hh : c.holder = some id
    · rw [if_pos hh] at hn ⊢
      cases hw : c.waiting with
      | nil => rfl
      | cons next rest =>
        rw [hw] at hn
        cases hn
    · rw [if_neg hh] at hn ⊢
      have hw : c.waiting = [] := h.headed hn
      rw [hw]
      rfl
  · rw [hl]
    exact iff_of_false h.nodup.not_mem_erase nofun
  · intro other ho
    rw [hl]
    exact List.mem_erase_of_ne ho

theorem Ordered.moves_claimed (h : c.Ordered) (free : c.holder = none) (id : LoopId) :
    Moves id true c { c with holder := some id } := by
  have hw := h.headed free
  refine ⟨⟨?_, nofun⟩, iff_of_true List.mem_cons_self rfl, ?_⟩
  · rw [line, hw]
    exact List.nodup_singleton id
  · intro other ho
    simp [line, free, hw, ho]

theorem Ordered.moves_queued (h : c.Ordered) (taken : c.holder ≠ none) (hn : id ∉ c.line) :
    Moves id true c { c with waiting := c.waiting ++ [id] } := by
  have hl : line { c with waiting := c.waiting ++ [id] } = c.line ++ [id] :=
    (List.append_assoc ..).symm
  refine ⟨⟨?_, fun hh => absurd hh taken⟩, ?_, ?_⟩
  · rw [hl, ← List.concat_eq_append]
    exact h.nodup.concat hn
  · rw [hl]
    exact iff_of_true (List.mem_append_right _ (List.mem_singleton_self id)) rfl
  · intro other ho
    rw [hl]
    simp [ho]

end Channel

namespace Phase

variable {J : Type}

/-- The phases in which a loop has the receiver or waits for it. -/
def isInLine : Phase J → Bool
  | .queued | .listening | .refreshing _ _ => true
  | .starting | .ended => false

@[simp] theorem answered_isInLine (phase : Phase J) :
    phase.answered.isInLine = phase.isInLine := by
  cases phase <;> rfl

end Phase

namespace Session

variable {S P J : Type} {b : Backend S P J} {s t u : Session S P J}
variable {id : LoopId} {view : ViewId}

/-- The lines are made up of the loops whose phase says so. -/
structure Lined (s : Session S P J) : Prop where
  ordered : ∀ view, (s.channel view).Ordered
  members : ∀ view id, id ∈ (s.channel view).line ↔
    ∃ l, s.loops[id]? = some l ∧ l.view = view ∧ l.phase.isInLine = true

/-- A turn leaves the loop in a phase that says whether it is in line. -/
def Lining (id : LoopId) (view : ViewId) (s t : Session S P J) : Prop :=
  ∃ now, (∀ l, t.loops[id]? = some l → l.phase = now) ∧
    (s.channel view).Moves id now.isInLine (t.channel view)

theorem Lining.trans (h : Lining id view s t) (k : Lining id view t u) : Lining id view s u := by
  obtain ⟨_, -, hm⟩ := h
  obtain ⟨now, hp, hk⟩ := k
  exact ⟨now, hp, hm.trans hk⟩

theorem Lining.ordered (h : Lining id view s t) : (t.channel view).Ordered := by
  obtain ⟨_, -, hm⟩ := h
  exact hm.toOrdered

theorem setPhase_lining {phase : Phase J} (hi : phase.isInLine = true)
    (ho : (s.channel view).Ordered) (hm : id ∈ (s.channel view).line) :
    Lining id view s (s.setPhase id phase) :=
  ⟨phase, fun _ => setPhase_phase, hi ▸ ho.moves_same hm rfl rfl⟩

theorem leaveChannel_channel (hm : view < s.nav.views.length) :
    (s.leaveChannel id view).channel view = (s.channel view).left id := by
  have hc : ∀ change, (s.modifyChannel view change).channel view = change (s.channel view) :=
    fun change => (modifyChannel_self view change s).trans (if_pos hm)
  rw [leaveChannel, Channel.left]
  by_cases hh : (s.channel view).holder = some id
  · simp only [if_pos hh]
    cases hw : (s.channel view).waiting with
    | nil => rw [hc, hw]
    | cons next rest => rw [wake_channel, hc]
  · simp only [if_neg hh]
    rw [hc]

theorem endLoop_lining (hm : view < s.nav.views.length) (ho : (s.channel view).Ordered) :
    Lining id view s (s.endLoop id view) := by
  have hc : (s.endLoop id view).channel view = (s.channel view).left id :=
    leaveChannel_channel (s := s.setPhase id .ended) hm
  refine ⟨.ended, fun _ => endLoop_phase, ?_⟩
  rw [hc]
  exact ho.moves_left id

theorem conclude_lining (hm : view < s.nav.views.length) (ho : (s.channel view).Ordered)
    (hh : (s.channel view).holder = some id) (job : J) :
    Lining id view s (s.conclude b id view job) := by
  obtain ⟨page, hp⟩ := page_of_made hm
  let answered := s.modifyPage view fun _ => (b.complete page job).1
  have hc : answered.channel view = s.channel view := modifyPage_channel ..
  have made : view < answered.nav.views.length := by
    rw [made_of_outline (modifyPage_outline view (fun _ => (b.complete page job).1) s)]
    exact hm
  rw [conclude_eq hp]
  dsimp only
  split
  · have hl : Lining id view answered (answered.endLoop id view) := by
      apply endLoop_lining made
      rw [hc]
      exact ho
    rw [Lining, hc] at hl
    exact hl
  · refine ⟨.listening, fun _ => setPhase_phase, ?_⟩
    change Channel.Moves id true _ (answered.channel view)
    rw [hc]
    exact ho.moves_same (Channel.mem_line_of_holder hh) rfl rfl

theorem listen_lining (hm : view < s.nav.views.length) (ho : (s.channel view).Ordered)
    (hh : (s.channel view).holder = some id) : Lining id view s (s.listen b id view) := by
  obtain ⟨page, hp⟩ := page_of_made hm
  have inLine := Channel.mem_line_of_holder hh
  rw [listen_eq hp]
  cases hc : s.isCancelled id with
  | true => exact endLoop_lining hm ho
  | false =>
    cases hq : (s.channel view).pending with
    | false => exact setPhase_lining rfl ho inLine
    | true =>
      have htaken : (s.takeUp b id view page).channel view =
          { s.channel view with pending := false } := takeUp_channel hm
      have taken : (s.channel view).Moves id true ((s.takeUp b id view page).channel view) := by
        rw [htaken]
        exact ho.moves_same inLine rfl rfl
      have made : view < (s.takeUp b id view page).nav.views.length :=
        made_of_outline (takeUp_turn (b := b) hp hc hq).outline ▸ hm
      have holds : ((s.takeUp b id view page).channel view).holder = some id := by
        rw [htaken]
        exact hh
      have conclude : ∀ {t}, Lining id view (s.takeUp b id view page) t → Lining id view s t := by
        rintro t ⟨now, hnow, hk⟩
        exact ⟨now, hnow, taken.trans hk⟩
      simp only [Bool.not_true, Bool.false_eq_true, if_false]
      split
      · exact conclude (setPhase_lining rfl taken.toOrdered (Channel.mem_line_of_holder holds))
      · exact conclude (conclude_lining made taken.toOrdered holds _)

namespace Lined

variable {l : Loop J}

theorem own (h : s.Lined) (hl : s.loops[id]? = some l) :
    id ∈ (s.channel l.view).line ↔ l.phase.isInLine = true := by
  rw [h.members]
  constructor
  · rintro ⟨m, hm, -, hp⟩
    obtain rfl : l = m := Option.some.inj (hl.symm.trans hm)
    exact hp
  · intro hp
    exact ⟨l, hl, rfl, hp⟩

theorem stays (h : s.Lined) (hl : s.loops[id]? = some l) : Lining id l.view s s := by
  refine ⟨l.phase, fun m hm => ?_, h.ordered l.view, h.own hl, fun _ _ => Iff.rfl⟩
  obtain rfl : l = m := Option.some.inj (hl.symm.trans hm)
  rfl

/-- A loop that comes to a free receiver takes it, and listens. -/
theorem claims (h : s.Lined) (hm : view < s.nav.views.length)
    (hf : (s.channel view).holder = none) :
    Lining id view s ((s.claim id view).listen b id view) := by
  have hc : (s.claim id view).channel view = { s.channel view with holder := some id } :=
    claim_channel hm
  have claimed : (s.channel view).Moves id true ((s.claim id view).channel view) := by
    rw [hc]
    exact (h.ordered view).moves_claimed hf id
  have made : view < (s.claim id view).nav.views.length :=
    made_of_outline (claim_turn hf).outline ▸ hm
  obtain ⟨now, hp, hk⟩ :=
    listen_lining (b := b) made claimed.toOrdered (congrArg Channel.holder hc)
  exact ⟨now, hp, claimed.trans hk⟩

theorem enqueues (h : s.Lined) (hm : view < s.nav.views.length)
    (taken : (s.channel view).holder ≠ none) (hn : id ∉ (s.channel view).line) :
    Lining id view s (s.enqueue id view) := by
  refine ⟨.queued, fun _ => setPhase_phase, ?_⟩
  rw [enqueue_channel hm]
  exact (h.ordered view).moves_queued taken hn

/-- A loop that has its answer stays where it is, unless it ends. -/
theorem answers (h : s.Lined) (hm : view < s.nav.views.length)
    (hh : (s.channel view).holder = some id) (job : J) :
    Lining id view s (if (s.conclude b id view job).hasEnded id then s.conclude b id view job
      else (s.conclude b id view job).listen b id view) := by
  have hc : Lining id view s (s.conclude b id view job) :=
    conclude_lining hm (h.ordered view) hh job
  split
  · exact hc
  · next he =>
    rcases conclude_cases b id hm job with ⟨-, hp⟩ | ⟨-, -, -, hv⟩
    · exact absurd (hasEnded_of_phase hp) he
    · have made : view < (s.conclude b id view job).nav.views.length :=
        made_of_outline (conclude_turn (b := b) id view job s).outline ▸ hm
      exact hc.trans (listen_lining made hc.ordered ((hv view).symm ▸ hh))

theorem poll (h : s.Lined) (hi : Invariant s) (b : Backend S P J) (hl : s.loops[id]? = some l) :
    Lining id l.view s (s.pollLoop b id) := by
  have hm := hi.view_made id l hl
  have ho := h.ordered l.view
  have holds := hi.receiver_held id l hl
  cases poll_step b hl with
  | rested _ same =>
    rw [same]
    exact h.stays hl
  | ended _ ends =>
    rw [ends]
    exact endLoop_lining hm ho
  | listened phase listens =>
    rw [listens]
    refine listen_lining hm ho ?_
    rcases phase with phase | ⟨-, hh⟩
    · exact holds (phase ▸ rfl)
    · exact hh
  | claimed free _ claims =>
    rw [claims]
    exact h.claims hm free
  | queued phase _ taken waits =>
    rw [waits]
    refine h.enqueues hm taken ?_
    rw [h.own hl, phase]
    nofun
  | answered job phase answers =>
    rw [answers]
    exact h.answers hm (holds (phase ▸ rfl)) job

theorem of_requested (h : s.Lined) (r : Requested view s t) : t.Lined := by
  have hl : ∀ v, (t.channel v).Ordered ∧ (t.channel v).line = (s.channel v).line := by
    intro v
    by_cases hv : v = view
    · subst hv
      rw [r.here]
      exact ⟨⟨(h.ordered v).nodup, (h.ordered v).headed⟩, rfl⟩
    · rw [r.elsewhere v hv]
      exact ⟨h.ordered v, rfl⟩
  refine ⟨fun v => (hl v).1, fun v id => ?_⟩
  rw [(hl v).2, r.loops]
  exact h.members v id

theorem of_turn (h : s.Lined) {starts : StartLog} (ht : Turn id l.view starts s t)
    (hl : s.loops[id]? = some l) (hk : Lining id l.view s t) : t.Lined := by
  obtain ⟨m, hm, hmv, -⟩ := loop_of_outline ht.outline.symm hl
  have ordered : ∀ v, (t.channel v).Ordered := by
    intro v
    by_cases hv : v = l.view
    · exact hv ▸ hk.ordered
    · rw [ht.elsewhere v hv]
      exact h.ordered v
  refine ⟨ordered, fun v other => ?_⟩
  obtain ⟨now, hp, moves⟩ := hk
  by_cases ho : other = id
  · subst ho
    have only : (∃ k, t.loops[other]? = some k ∧ k.view = v ∧ k.phase.isInLine = true) ↔
        l.view = v ∧ now.isInLine = true := by
      rw [← hp m hm, hm, hmv]
      simp
    rw [only]
    by_cases hv : v = l.view
    · subst hv
      rw [moves.own]
      simp
    · rw [ht.elsewhere v hv, h.members, hl]
      simp [Ne.symm hv]
  · rw [ht.others other ho]
    by_cases hv : v = l.view
    · subst hv
      exact (moves.others other ho).trans (h.members l.view other)
    · rw [ht.elsewhere v hv]
      exact h.members v other

theorem of_kept (h : s.Lined) (k : Kept s t) : t.Lined := by
  refine ⟨fun v => k.channels v ▸ h.ordered v, fun v other => ?_⟩
  rw [k.channels, h.members]
  have same : ∀ {l m : Loop J}, Loop.Spared l m → m.phase.isInLine = l.phase.isInLine := by
    intro l m hs
    rcases hs.phase with hp | hp <;> simp [hp]
  constructor
  · rintro ⟨l, hl, hv, hp⟩
    obtain ⟨m, hm, hs⟩ := k.loops other l hl
    exact ⟨m, hm, hs.view.trans hv, (same hs).trans hp⟩
  · rintro ⟨m, hm, hv, hp⟩
    cases hl : s.loops[other]? with
    -- a loop that has only just been attached is in no line yet
    | none =>
      rw [(k.attached other m hl hm).1] at hp
      cases hp
    | some l =>
      obtain ⟨m', hm', hs⟩ := k.loops other l hl
      obtain rfl : m' = m := Option.some.inj (hm'.symm.trans hm)
      exact ⟨l, rfl, hs.view.symm.trans hv, (same hs).symm.trans hp⟩

theorem next (h : s.Lined) (hi : Invariant s) {e : Event S P} (he : Enabled s e) :
    (next b s e).Lined := by
  rcases next_cases b hi.sound hi.only_active he with ⟨v, rfl, hm⟩ | ⟨id, l, rfl, hl⟩ | ⟨-, -, hk⟩
  · exact h.of_requested (trigger_requested hm)
  · have hd : (s.dequeue (.loop id)).Lined := ⟨h.ordered, h.members⟩
    have hid : Invariant (s.dequeue (.loop id)) :=
      ⟨hi.sound, hi.only_active, hi.view_made, hi.receiver_held⟩
    have hp : Lining id l.view s (Session.next b s (.poll (.loop id))) := hd.poll hid b hl
    exact h.of_turn (poll_turn hl).1 hl hp
  · exact h.of_kept hk

end Lined

theorem start_lined {f : Factory P} {root : String} {source : S}
    (h : Session.start? f root source = some s) : s.Lined := by
  refine ⟨fun view => ?_, fun view id => ?_⟩
  · rw [start_channel h]
    exact ⟨List.nodup_nil, fun _ => rfl⟩
  · rw [start_channel h, start_loops h]
    simp [Channel.line]

theorem setPhase_self {l : Loop J} (hl : s.loops[id]? = some l) : s.setPhase id l.phase = s := by
  have hs : s.loops.modify id (fun m => { m with phase := l.phase }) = s.loops := by
    apply List.ext_getElem?
    intro other
    rw [List.getElem?_modify]
    by_cases ho : id = other
    · subst ho
      simp [hl]
    · simp [ho]
  rw [setPhase, modifyLoop, hs]

theorem pollLoop_rests {l : Loop J} (hl : s.loops[id]? = some l)
    (h : restsIn (s.channel l.view) id l = true) : s.pollLoop b id = s := by
  cases hp : l.phase with
  | starting =>
    rw [restsIn, hp] at h
    cases h
  | queued =>
    simp only [restsIn, hp, Bool.and_eq_true, Bool.not_eq_true', bne_iff_ne] at h
    simp [pollLoop, hl, hp, h.1, h.2]
  | listening =>
    simp only [restsIn, hp, Bool.and_eq_true, Bool.not_eq_true'] at h
    have hs : s.pollLoop b id = s.setPhase id .listening := by
      simp [pollLoop, hl, hp, listen, isCancelled_eq hl, h.1, h.2]
    rw [hs, ← hp]
    exact setPhase_self hl
  | refreshing job parked =>
    cases parked with
    | true => simp [pollLoop, hl, hp]
    | false =>
      rw [restsIn, hp] at h
      cases h
  | ended => simp [pollLoop, hl, hp]

/-- A session is quiescent when all notices have been read and every loop rests. -/
theorem quiescent_of_rest (alive : s.inUse = true) (read : s.nav.notices = [])
    (rest : ∀ entry ∈ s.loops.zipIdx, restsIn (s.channel entry.1.view) entry.2 entry.1 = true) :
    Quiescent b s := by
  intro task
  cases task with
  | watcher => exact pollWatcher_read alive read
  | loop id =>
    change s.pollLoop b id = s
    cases hl : s.loops[id]? with
    | none => rw [pollLoop, hl]
    | some l => exact pollLoop_rests hl (rest (l, id) (List.mem_zipIdx_iff_getElem?.mpr hl))

theorem restsIn_of_ended {c : Channel} {l : Loop J} (h : l.phase.isEnded = true) :
    restsIn c id l = true := by
  cases hp : l.phase <;> simp [hp, Phase.isEnded, restsIn] at h ⊢

theorem listen_rests (hm : view < s.nav.views.length) {m : Loop J}
    (hn : (s.listen b id view).loops[id]? = some m) :
    restsIn ((s.listen b id view).channel view) id m = true := by
  obtain ⟨page, hp⟩ := page_of_made hm
  have same : m.cancelled = s.isCancelled id :=
    (isCancelled_eq hn).symm.trans (isCancelled_of_outline (listen_turn b id view s).outline id)
  rw [listen_eq hp] at hn ⊢
  cases hc : s.isCancelled id with
  | true =>
    rw [hc, if_pos rfl] at hn
    exact restsIn_of_ended (endLoop_phase hn ▸ rfl)
  | false =>
    rw [hc] at hn same
    simp only [Bool.false_eq_true, if_false] at hn ⊢
    cases hq : (s.channel view).pending with
    | false =>
      rw [hq, Bool.not_false, if_pos rfl] at hn
      have still : ((s.setPhase id .listening).channel view).pending = false := hq
      simp [restsIn, setPhase_phase hn, same, still]
    | true =>
      rw [hq] at hn
      simp only [Bool.not_true, Bool.false_eq_true, if_false] at hn ⊢
      split at hn
      · rw [restsIn, setPhase_phase hn]
      next atOnce =>
      rw [if_neg atOnce]
      have made : view < (s.takeUp b id view page).nav.views.length :=
        made_of_outline (takeUp_turn (b := b) hp hc hq).outline ▸ hm
      rcases conclude_cases b id made (b.start s.source id view page).2.2.1 with
        ⟨-, ended⟩ | ⟨-, -, listening, still⟩
      · exact restsIn_of_ended (ended m hn ▸ rfl)
      · simp [restsIn, listening m hn, still, takeUp_channel hm, same]

/-- A loop whose turn it was has nothing more to do: it has ended, or waits. -/
theorem poll_rests (hi : Invariant s) (lined : s.Lined) {l m : Loop J}
    (hl : s.loops[id]? = some l) (hn : (s.pollLoop b id).loops[id]? = some m) :
    restsIn ((s.pollLoop b id).channel l.view) id m = true := by
  have hm := hi.view_made id l hl
  have same : m.cancelled = l.cancelled := by
    obtain ⟨_, turn⟩ := served b hl
    rw [← isCancelled_eq hn, ← isCancelled_eq hl]
    exact isCancelled_of_outline turn.turn.outline id
  cases poll_step b hl with
  | rested rests still =>
    rw [still] at hn ⊢
    obtain rfl : m = l := Option.some.inj (hn.symm.trans hl)
    exact rests
  | ended _ ends =>
    rw [ends] at hn
    exact restsIn_of_ended (endLoop_phase hn ▸ rfl)
  | listened _ listens =>
    rw [listens] at hn ⊢
    exact listen_rests hm hn
  | claimed free _ claims =>
    have made : l.view < (s.claim id l.view).nav.views.length :=
      made_of_outline (claim_turn free).outline ▸ hm
    rw [claims] at hn ⊢
    exact listen_rests made hn
  | queued phase live _ waits =>
    -- it was in no line before, so the receiver that it waits for is not its own
    have held : (s.channel l.view).holder ≠ some id := by
      intro held
      have stood := (lined.own hl).mp (Channel.mem_line_of_holder held)
      rw [phase] at stood
      cases stood
    rw [waits] at hn ⊢
    simp [restsIn, setPhase_phase hn, enqueue_channel hm, same, live, held]
  | answered job _ answers =>
    rw [answers] at hn ⊢
    split at hn
    · next gone =>
      rw [hasEnded_eq hn] at gone
      exact restsIn_of_ended gone
    · next still =>
      have made : l.view < (s.conclude b id l.view job).nav.views.length :=
        made_of_outline (conclude_turn (b := b) id l.view job s).outline ▸ hm
      rw [if_neg still]
      exact listen_rests made hn

/-- In a quiescent moment in which nobody refreshes the page in view, no request for it is left. -/
theorem Supervised.unasked_of_quiet (h : Supervised s) (lined : s.Lined) (alive : s.inUse = true)
    (told : s.outline.Told) (quiet : Quiescent b s)
    (idle : ∀ l ∈ s.loops, l.view = s.nav.currentView → l.phase.isRefreshing = false) :
    (s.channel s.nav.currentView).pending = false := by
  obtain ⟨id, l, ha, hl, hc, he, hv⟩ := h.attached_of_told alive quiet told
  have hq : s.pollLoop b id = s := quiet (.loop id)
  have rests := poll_rests (b := b) h.toInvariant lined hl (hq.symm ▸ hl)
  rw [hq] at rests
  rw [← hv]
  cases hp : l.phase with
  | starting => simp [restsIn, hp] at rests
  | queued =>
    -- somebody else has the receiver, and is cancelled: it could only be refreshing
    have hf : (s.channel l.view).holder ≠ some id := by simpa [restsIn, hp, hc] using rests
    have hw : id ∈ (s.channel l.view).line := (lined.own hl).mpr (hp ▸ rfl)
    cases hh : (s.channel l.view).holder with
    | none =>
      rw [Channel.line, hh, (lined.ordered l.view).headed hh] at hw
      cases hw
    | some other =>
      have ho : other ≠ id := by
        rintro rfl
        exact hf hh
      obtain ⟨m, hmo, hmv, hmp⟩ :=
        (lined.members l.view other).mp (Channel.mem_line_of_holder hh)
      have hmc : m.cancelled = true := by
        rw [← isCancelled_eq hmo, ← Bool.not_eq_false]
        intro hx
        exact ho (Option.some.inj ((h.only_active other hx).symm.trans ha))
      have made := h.view_made other m hmo
      rcases quiet_cancelled hmo made hmc (quiet (.loop other)) with hx | ⟨job, hx⟩
      · cases hph : m.phase <;> simp [hph, Phase.isEnded, Phase.isInLine] at hx hmp
      · have hr := idle m (List.mem_of_getElem? hmo) (hmv.trans hv)
        rw [hx] at hr
        cases hr
  | listening => simpa [restsIn, hp, hc] using rests
  | refreshing job parked =>
    have hr := idle l (List.mem_of_getElem? hl) hv
    rw [hp] at hr
    cases hr
  | ended =>
    rw [hp] at he
    cases he

end Session
end ClusterDashboard
